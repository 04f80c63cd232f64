import ApiStencil.Api.Response
import Mathlib.Data.List.Infix
import Mathlib.Data.String.Basic

/-!
# Wrappers can be told from their texts

The text of a wrapper opens with the name of its type, up to the bracket, and no opening starts
another one (`opening_eq_of_starts`); so the text shows which wrapper it is before the payload comes.
What is left of it then has the payload once, or twice with a separator.  In both cases its length is
that of the payload apart from what is always there, and so it determines the payload, whatever the
payload contains (`text_injective`).
-/

namespace ApiStencil.Wrapper

variable {a b : Wrapper}

/-! ### Openings -/

/-- What is written of a wrapper before its payload. -/
def opening : Wrapper → String
  | .successJson _ => "IResponseSuccessJson<"
  | .redirectToResource _ => "IResponseSuccessRedirectToResource<"
  | .accepted _ => "ResponseSuccessAccepted<"
  | .notImplemented => sentinel

/-- What is written of a wrapper from its payload on. -/
def ending : Wrapper → String
  | .successJson payload => payload ++ ">"
  | .redirectToResource payload => payload ++ ", " ++ payload ++ ">"
  | .accepted payload => payload ++ ">"
  | .notImplemented => ""

lemma text_eq_append (w : Wrapper) : w.text = w.opening ++ w.ending := by
  cases w with
  | successJson payload =>
    show "IResponseSuccessJson<" ++ payload ++ ">" = "IResponseSuccessJson<" ++ (payload ++ ">")
    exact String.append_assoc
  | redirectToResource payload =>
    show "IResponseSuccessRedirectToResource<" ++ payload ++ ", " ++ payload ++ ">" =
      "IResponseSuccessRedirectToResource<" ++ (payload ++ ", " ++ payload ++ ">")
    simp only [String.append_assoc]
  | accepted payload =>
    show "ResponseSuccessAccepted<" ++ payload ++ ">" =
      "ResponseSuccessAccepted<" ++ (payload ++ ">")
    exact String.append_assoc
  | notImplemented => exact String.append_empty.symm

lemma opening_starts_text (w : Wrapper) : w.opening.toList <+: w.text.toList := by
  rw [text_eq_append, String.toList_append]
  exact List.prefix_append _ _

/-- **No opening starts another one.** -/
theorem opening_eq_of_starts (h : a.opening.toList <+: b.opening.toList) :
    a.opening = b.opening := by
  revert h
  cases a <;> cases b <;> simp only [opening] <;> decide

/-- Texts that are equal open alike. -/
lemma opening_eq_of_text_eq (same : a.text = b.text) : a.opening = b.opening := by
  have starts : a.opening.toList <+: b.text.toList := same ▸ opening_starts_text a
  rcases List.prefix_or_prefix_of_prefix starts (opening_starts_text b) with h | h
  · exact opening_eq_of_starts h
  · exact (opening_eq_of_starts h).symm

/-! ### Payloads -/

/-- A text that is written twice can be read off: the length of the whole gives that of the text. -/
lemma eq_of_twice_eq {payload other separator : String}
    (same : payload ++ separator ++ payload = other ++ separator ++ other) : payload = other := by
  have chars := congrArg String.toList same
  simp only [String.toList_append, List.append_assoc] at chars
  have length : payload.toList.length = other.toList.length := by
    have lengths := congrArg List.length chars
    simp only [List.length_append] at lengths
    omega
  exact String.toList_inj.mp (List.append_inj chars length).1

/-- **The text of a wrapper determines it.** -/
theorem text_injective : Function.Injective text := by
  intro a b same
  have opens := opening_eq_of_text_eq same
  have ends : a.ending = b.ending := by
    rwa [text_eq_append, text_eq_append, opens, String.append_right_inj] at same
  cases a with
  | successJson payload =>
    cases b with
    | successJson other => rw [(String.append_left_inj ">").mp ends]
    | _ => exact absurd opens (by simp only [opening]; decide)
  | redirectToResource payload =>
    cases b with
    | redirectToResource other => rw [eq_of_twice_eq ((String.append_left_inj ">").mp ends)]
    | _ => exact absurd opens (by simp only [opening]; decide)
  | accepted payload =>
    cases b with
    | accepted other => rw [(String.append_left_inj ">").mp ends]
    | _ => exact absurd opens (by simp only [opening]; decide)
  | notImplemented =>
    cases b with
    | notImplemented => rfl
    | _ => exact absurd opens (by simp only [opening]; decide)

/-- **Texts of wrappers are unambiguous**: two wrappers have one text only if they are one wrapper, with
the same payload, and only a response without a wrapper is written as the sentinel. -/
theorem text_unambiguous (a b : Wrapper) :
    (a.text = b.text ↔ a = b) ∧ (a.text = sentinel ↔ a = .notImplemented) :=
  ⟨text_injective.eq_iff, text_injective.eq_iff' rfl⟩

/-- A payload that contains the separator and the closing bracket. -/
example : (Wrapper.redirectToResource "A, A>").text =
    "IResponseSuccessRedirectToResource<A, A>, A, A>>" := by
  decide

end ApiStencil.Wrapper
