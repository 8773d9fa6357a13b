/-
# Masks and limits

The parts of the shell that say what its processes may do.
-/

import Remedy.Host.Shell.Builtin.Basic
import Remedy.Host.Shell.Mask

namespace Remedy
namespace Host
namespace Shell
namespace Builtin

/-- Shows the mask of permissions, or changes it. -/
def umask : Builtin := fun args s =>
  s.withOptions "S" args fun chosen operands =>
    match operands with
    | [] =>
      (s.finish 0).print
        (Octets.line (if chosen.isEmpty then Mask.numeral s.mask else Mask.clauses s.mask))
    | a :: _ =>
      match Mask.ofText s.mask a with
      | .ok mask => { s with mask := mask }.finish 0
      | .error why => s.abort why

/-- Shows limits, or changes one. -/
def ulimit : Builtin := fun args s =>
  let letters := String.ofList (Limits.resources.map (·.letter))
  s.withOptions ("HSa" ++ letters) args fun chosen operands =>
    let wish : Limits.Wish := chosen.foldl (fun w c =>
      match c.1 with
      | 'H' => { w with soft := false, hard := true }
      | 'S' => { w with soft := true, hard := false }
      | 'a' => { w with all := true }
      | c => { w with letter := c }) ⟨true, true, false, 'f'⟩
    match s.limits.apply wish operands with
    | .ok (text, limits) => ({ s with limits := limits }.finish 0).print text
    | .error why => s.abort why

end Builtin
end Shell
end Host
end Remedy
