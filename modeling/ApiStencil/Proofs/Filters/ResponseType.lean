import ApiStencil.Proofs.Api.Response
import ApiStencil.Proofs.Api.Wrapper
import ApiStencil.Proofs.Environment.Strictness

/-!
# The response filter in its two modes

Both modes decode the value and choose a wrapper in the same way, and both report a response that has
none.  After that they differ for those responses only: one mode writes the sentinel, the other one
fails with the code as the value has it (`responseType_modes`).  The sentinel cannot be the text of a
wrapper, whatever the payload is (`Wrapper.text_eq_sentinel_iff`).
-/

namespace ApiStencil

open Json Template ApiStencil.Action

namespace Wrapper

/-- **Only a response without a wrapper is written as the sentinel.** -/
theorem text_eq_sentinel_iff {w : Wrapper} : w.text = sentinel ↔ w.isImplemented = false := by
  have written : w.text = sentinel ↔ w = .notImplemented := text_injective.eq_iff' rfl
  rw [written]
  cases w <;> simp [isImplemented]

end Wrapper

namespace Response

variable {r : Response}

/-- The status codes with a wrapper. -/
def Mapped (r : Response) : Prop := ∃ n ∈ [200, 201, 202], r.status? = some n

lemma isImplemented_wrapper_iff : r.wrapper.isImplemented = true ↔ r.Mapped := by
  unfold wrapper Mapped
  split
  · rename_i status
    simp [status, Wrapper.isImplemented]
  · rename_i status
    simp [status, Wrapper.isImplemented]
  · rename_i status
    simp [status, Wrapper.isImplemented]
  · rename_i ok created accepted
    simp only [Wrapper.isImplemented, List.mem_cons, List.not_mem_nil, or_false, exists_eq_or_imp,
      exists_eq_left]
    exact ⟨nofun, fun mapped => (mapped.elim ok fun other => other.elim created accepted).elim⟩

/-- A string stands in the place of the status code: as a member of an object that goes by one of its
names, or as the first item of an array. -/
def SpellsCode (v : Value) (s : String) : Prop :=
  (∃ members, ∃ key ∈ codeNames, v = .obj members ∧ (key, .str s) ∈ members) ∨
    ∃ rest, v = .arr (.str s :: rest)

/-- A string in the place of the status code is kept as it is. -/
lemma statusCode_of_spellsCode {v : Value} {s : String} (h : SpellsCode v s)
    (decodes : decodeValue decode v = .ok r) : r.statusCode = s := by
  rcases h with ⟨members, key, own, rfl, mem⟩ | ⟨rest, rfl⟩
  · rw [decodeValue, Draft.ofValue, Draft.ofMembers_eq_map] at decodes
    have mem' : (key, Draft.str s) ∈ members.map fun m => (m.1, Draft.ofValue m.2) :=
      List.mem_map.mpr ⟨_, mem, by rw [Draft.ofValue]⟩
    exact (Except.ok.inj (codeText_of_decode own mem' decodes).1).symm
  · rw [decodeValue, Draft.ofValue, Draft.ofItems] at decodes
    exact (Except.ok.inj (codeText_of_decode_arr decodes)).symm

end Response

namespace Filters

/-- **The two modes of the response filter.**  A value that is no response is the same failure in both.
For a response the lenient mode gives the text of its wrapper; the strict mode gives the same text, unless
it is the sentinel, which is to say that the code has no wrapper, and then fails with the code as it
stands in the value.  The ledger is the same after both. -/
theorem responseType_modes (v : Value) (args : Arguments) (l : Ledger) :
    match decodeValue Response.decode v with
    | .error e => ∀ strict, ((responseType strict).run v args).perform l =
        (.error (.undecodable responseTypeName .response e), l)
    | .ok r =>
      let after : Ledger := { l with journal := l.journal ++ responseEvents r }
      let text := r.wrapper.text
      ((responseType false).run v args).perform l = (.ok (.str text), after) ∧
      (((responseType true).run v args).perform l = (.ok (.str text), after) ↔
        text ≠ Wrapper.sentinel) ∧
      (text = Wrapper.sentinel → ((responseType true).run v args).perform l =
        (.error (.unsupportedStatus responseTypeName r.statusCode), after)) ∧
      (Failure.unsupportedStatus responseTypeName r.statusCode).causes =
        [Failure.unsupportedText r.statusCode] ∧
      (∀ s, Response.SpellsCode v s → r.statusCode = s) ∧
      (text = Wrapper.sentinel ↔ ¬ r.Mapped) := by
  have run := fun strict => perform_responseType strict v args l
  split
  · rename_i e undecodable
    intro strict
    rw [run, undecodable]
  · rename_i r decodes
    rw [decodes] at run
    dsimp only at run
    have written : r.wrapper.text = Wrapper.sentinel ↔ r.wrapper.isImplemented = false :=
      Wrapper.text_eq_sentinel_iff
    refine ⟨run false, ?_, ?_, rfl, ?_, ?_⟩
    · rw [run true, Ne, written]
      cases r.wrapper.isImplemented with
      | true => simp
      | false => simp
    · intro none
      rw [run true, written.mp none]
      rfl
    · intro s spells
      exact Response.statusCode_of_spellsCode spells decodes
    · rw [written, ← Response.isImplemented_wrapper_iff, Bool.not_eq_true]

/-- A code without a wrapper, with blanks around it. -/
def notFound : Value := .obj [("statusCode", .str " 404 ")]

/-- A code with a wrapper, and the payload in it. -/
def found : Value := .obj [("statusCode", .str "200"), ("payloadType", .str "IPet")]

/-- The two modes differ on the code without a wrapper and do the same on the one with a wrapper. -/
theorem responseType_modes_notFound :
    (∃ after,
      ((responseType false).run notFound []).perform ⟨.empty, []⟩ =
        (.ok (.str Wrapper.sentinel), after) ∧
      ((responseType true).run notFound []).perform ⟨.empty, []⟩ =
        (.error (.unsupportedStatus responseTypeName " 404 "), after)) ∧
    ∃ after, ∀ strict, ((responseType strict).run found []).perform ⟨.empty, []⟩ =
      (.ok (.str "IResponseSuccessJson<IPet>"), after) := by
  have mapped := responseType_modes found [] ⟨.empty, []⟩
  have decodesFound : decodeValue Response.decode found = .ok ⟨"200", some "IPet"⟩ := rfl
  rw [decodesFound] at mapped
  obtain ⟨lenientFound, strict_iff, -⟩ := mapped
  have text : (⟨"200", some "IPet"⟩ : Response).wrapper.text = "IResponseSuccessJson<IPet>" := by
    decide +kernel
  rw [text] at lenientFound strict_iff
  have strictFound := strict_iff.mpr (by decide)
  have modes := responseType_modes notFound [] ⟨.empty, []⟩
  have decodes : decodeValue Response.decode notFound = .ok ⟨" 404 ", none⟩ := rfl
  rw [decodes] at modes
  obtain ⟨lenient, -, strict, -, -, sentinel_iff⟩ := modes
  have unmapped : ¬ (⟨" 404 ", none⟩ : Response).Mapped := by
    have status : (⟨" 404 ", none⟩ : Response).status? = some 404 := by decide +kernel
    simp [Response.Mapped, status]
  have sentinel := sentinel_iff.mpr unmapped
  rw [sentinel] at lenient
  exact ⟨⟨_, lenient, strict sentinel⟩, _, Bool.forall_bool.mpr ⟨lenientFound, strictFound⟩⟩

end Filters

end ApiStencil
