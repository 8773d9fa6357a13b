/-
# The virtual host in the URI of the broker

In the URI each slash of the virtual host is written `%2f`, and nothing else is: a percent sign stands
as it is.  Who reads the URI decodes all of it.  So a virtual host is read back if and only if there
is nothing in it that looks like a character written by digits, and two of them share a URI if and
only if they are the same with a slash for every `%2f` (`vhost_read`, `vhosts_confused`).
-/

import Remedy.Config.Basic
import Remedy.Messaging.Uri
import Remedy.Proofs.Text.Percent

namespace Remedy
namespace Config

open Messaging.Uri (decoded)
open Text.Percent (Escaped)

/-- The code of a slash is one. -/
theorem isCode_slash : Text.IsCode '/' '%' ['2', 'f'] :=
  ⟨by decide, by decide, by decide⟩

/-- An encoded vhost has the code for each slash, and all else as it is. -/
theorem toList_encodeVhost (vhost : String) :
    (Endpoint.encodeVhost vhost).toList = Text.substitute ['/'] ['%', '2', 'f'] vhost.toList := by
  rw [Endpoint.encodeVhost, Text.replace, String.toList_ofList]
  rfl

/-- **What is read from a virtual host in a URI** is what is read from the virtual host itself. -/
theorem decoded_encodeVhost (vhost : String) :
    decoded (Endpoint.encodeVhost vhost).toList = decoded vhost.toList := by
  rw [decoded, toList_encodeVhost, Text.Percent.decode_encode_substitute, decoded]

/-- A text is read back if and only if nothing in it is written by digits. -/
theorem decoded_eq_ok_iff {cs : List Char} : decoded cs = .ok cs ↔ ¬Escaped cs := by
  rw [← Text.Percent.decode_encode_eq_iff, eq_comm (a := Text.Percent.decode _),
    ← Text.Utf8.decode_eq_ok_iff, decoded]
  split
  · next h => rw [h, Except.ok.injEq, Except.ok.injEq]
  · next h =>
    rw [h]
    simp

/-- **The virtual host in the URI.**  Without a URL, the URI ends in a slash and the virtual host with
its slashes replaced, in which there is no slash.  What is read from it is what is read from the
virtual host as it is; it is the virtual host if and only if there is no `%` before two hexadecimal
digits in that.  Two virtual hosts with one host and one port have the same URI if and only if they
are the same with a slash for every `%2f`. -/
theorem vhost_read {e e' : Endpoint} (he : e.url = none) (he' : e'.url = none) :
    (∃ text, e.uri = "amqp://" ++ e.host ++ ":" ++ toString e.port.toNat ++ "/" ++ text ∧
      '/' ∉ text.toList ∧ decoded text.toList = decoded e.vhost.toList ∧
      (decoded text.toList = .ok e.vhost.toList ↔
        ¬∃ high low, ['%', high, low] <:+: e.vhost.toList ∧
          Text.Percent.isHexDigit high = true ∧ Text.Percent.isHexDigit low = true)) ∧
    (e.host = e'.host → e.port = e'.port →
      (e.uri = e'.uri ↔ Text.replace "%2f" "/" e.vhost = Text.replace "%2f" "/" e'.vhost)) := by
  have huri : ∀ {e : Endpoint}, e.url = none → e.uri =
      "amqp://" ++ e.host ++ ":" ++ toString e.port.toNat ++ "/" ++ Endpoint.encodeVhost e.vhost := by
    intro e he
    rw [Endpoint.uri, he]
  refine ⟨⟨Endpoint.encodeVhost e.vhost, huri he, ?_, decoded_encodeVhost e.vhost, ?_⟩,
    fun hhost hport => ?_⟩
  · rw [toList_encodeVhost]
    exact Text.not_mem_substitute (by decide) _
  · rw [decoded_encodeVhost, decoded_eq_ok_iff, Escaped]
  · rw [huri he, huri he', hhost, hport, String.append_right_inj, ← String.toList_inj,
      toList_encodeVhost, toList_encodeVhost, isCode_slash.substitute_eq_iff, Text.replace,
      Text.replace, String.ofList_inj]
    rfl

/-- **Two virtual hosts that share a URI:** one is the standard one, and the other is what that is
written as.  The latter is not read back. -/
theorem vhosts_confused :
    let e : Endpoint := { Endpoint.standard with vhost := "%2f" }
    e.url = none ∧ Endpoint.standard.url = none ∧ e.vhost ≠ Endpoint.standard.vhost ∧
      e.uri = Endpoint.standard.uri ∧
      e.uri = "amqp://" ++ e.host ++ ":" ++ toString e.port.toNat ++ "/" ++ "%2f" ∧
      decoded "%2f".toList = .ok Endpoint.standard.vhost.toList := by
  refine ⟨rfl, rfl, by decide, by decide, by decide, by decide⟩

/-- A virtual host with a percent sign that nothing is written by, and one that has digits after it. -/
theorem vhost_read_of_percent :
    let e : Endpoint := { Endpoint.standard with vhost := "50%/été" }
    let e' : Endpoint := { Endpoint.standard with vhost := "50%25/été" }
    e.url = none ∧ e'.url = none ∧ e.host = e'.host ∧ e.port = e'.port ∧ e.uri ≠ e'.uri ∧
      ∃ text, e.uri = "amqp://" ++ e.host ++ ":" ++ toString e.port.toNat ++ "/" ++ text ∧
        '/' ∉ text.toList ∧ decoded text.toList = .ok e.vhost.toList := by
  intro e e'
  have he : e.url = none := rfl
  have he' : e'.url = none := rfl
  obtain ⟨⟨text, huri, hslash, -, hread⟩, hsame⟩ := vhost_read he he'
  refine ⟨he, he', rfl, rfl, fun heq => ?_, text, huri, hslash, hread.2 ?_⟩
  · exact absurd ((hsame rfl rfl).1 heq) (by decide)
  · have hplain : ¬Escaped e.vhost.toList := decoded_eq_ok_iff.1 (by decide +kernel)
    exact hplain

end Config
end Remedy
