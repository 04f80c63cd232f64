import ApiStencil.Proofs.Accumulator.FlagSet
import ApiStencil.Proofs.Accumulator.Runs
import ApiStencil.Proofs.Environment.SharedScope
import ApiStencil.Proofs.Text.Split

/-!
# The listing of a set of flags can be read back

Keys are listed one a line, so the lines of a listing are the keys unless a key has a line break in
it; and the empty text is the listing of no key, so the empty key alone cannot be seen in it.
Nothing else stands in the way (`linesOf_intercalate_iff`).

What an entry that lists gives to a template is the listing of what the scope holds, and the output
of a render has the keys of the same set: each can be had from the other (`listing_readBack`).
-/

namespace ApiStencil

open Json ApiStencil.Action

namespace FlagSet

/-! ### Lines -/

section Lines

variable {keys : List String} {s t : FlagSet}

/-- The lines of a text; the empty text has none. -/
def linesOf (text : String) : List String :=
  if text = "" then [] else (text.toList.splitOn '\n').map String.ofList

/-- Keys that can be read off their listing: none has a line break, and they are not the empty key
alone. -/
def IsLegible (keys : List String) : Prop := (∀ key ∈ keys, '\n' ∉ key.toList) ∧ keys ≠ [""]

lemma not_mem_of_mem_linesOf {text line : String} (mem : line ∈ linesOf text) :
    '\n' ∉ line.toList := by
  unfold linesOf at mem
  split at mem
  · exact absurd mem List.not_mem_nil
  · obtain ⟨part, cut, rfl⟩ := List.mem_map.mp mem
    rw [String.toList_ofList]
    exact Text.not_mem_of_mem_splitOn cut

/-- The listing is the empty text if there is no key, or the empty one alone. -/
lemma intercalate_eq_empty_iff : "\n".intercalate keys = "" ↔ keys = [] ∨ keys = [""] := by
  match keys with
  | [] => simp
  | [key] => simp
  | first :: second :: rest =>
    rw [String.intercalate_cons_cons]
    simp

/-- **What can be read off its listing**: exactly the keys that are legible. -/
theorem linesOf_intercalate_iff : linesOf ("\n".intercalate keys) = keys ↔ IsLegible keys := by
  constructor
  · intro read
    refine ⟨fun key mem => not_mem_of_mem_linesOf (read ▸ mem), ?_⟩
    rintro rfl
    exact absurd read (by decide)
  · intro ⟨free, ne⟩
    unfold linesOf
    split
    · rename_i blank
      exact ((intercalate_eq_empty_iff.mp blank).resolve_right ne).symm
    · rename_i written
      have some : keys ≠ [] := fun none => written (intercalate_eq_empty_iff.mpr (.inl none))
      rw [Text.splitOn_toList_intercalate rfl free some, Text.map_ofList_map_toList]

lemma count_linesOf_listing (h : IsLegible s.keys) {key : String} (mem : key ∈ s) :
    (linesOf s.listing).count key = 1 := by
  rw [listing, linesOf_intercalate_iff.mpr h]
  exact List.count_eq_one_of_mem s.nodup_keys mem

/-- Sets are told apart by their listings. -/
lemma eq_of_listing_eq (hs : IsLegible s.keys) (ht : IsLegible t.keys)
    (same : s.listing = t.listing) : s = t := by
  have keys : s.keys = t.keys := by
    rw [← linesOf_intercalate_iff.mpr hs, ← linesOf_intercalate_iff.mpr ht]
    exact congrArg linesOf same
  obtain ⟨_, _⟩ := s
  obtain ⟨_, _⟩ := t
  obtain rfl : _ = _ := keys
  rfl

end Lines

end FlagSet

namespace Environment

open FlagSet

/-- After a render that succeeds, an entry that lists gives what the output lists, one key a line. -/
lemma perform_get_of_renderIn {environment : Environment} {template : String} {context : Value}
    {i : Handle} {scopes : Scopes} {output : Output} {after : Ledger}
    (ok : environment.renderIn template context i scopes = (.ok output, after)) {call : EntryCall}
    (h : call.entry.action = .get) :
    (call.action i).perform after =
      (.ok (.str ("\n".intercalate (output.listing call.entry.kind))), after) := by
  have collected := (renderIn_eq_ok_iff.mp (congrArg Prod.fst ok)).2
  rw [ok] at collected
  have intact : after.Intact i := fun kind => (collected kind).1
  rw [call.perform_get intact h, (collected call.entry.kind).2]

/-- **The listing of a set of flags can be read back** if its keys are legible.  Then its lines are the
keys in order, each on exactly one line, and the listing determines the set.  What an entry that lists
gives in a scope after a render is made from what the output of the render lists, and has just these
lines. -/
theorem listing_readBack :
    (∀ s : FlagSet, IsLegible s.keys → linesOf s.listing = s.keys ∧
      ∀ key ∈ s, (linesOf s.listing).count key = 1) ∧
    (∀ s t : FlagSet, IsLegible s.keys → IsLegible t.keys → s.listing = t.listing → s = t) ∧
    (∀ (environment : Environment) (template : String) (context : Value) (i : Handle)
        (scopes : Scopes) (output : Output) (after : Ledger),
      environment.renderIn template context i scopes = (.ok output, after) →
      ∀ call : EntryCall, call.entry.action = .get →
        ∃ text, (call.action i).perform after = (.ok (.str text), after) ∧
          text = "\n".intercalate (output.listing call.entry.kind) ∧
          (IsLegible (output.listing call.entry.kind) →
            linesOf text = output.listing call.entry.kind)) := by
  refine ⟨fun s h => ⟨linesOf_intercalate_iff.mpr h, fun key => count_linesOf_listing h⟩,
    fun s t => eq_of_listing_eq,
    fun environment template context i scopes output after ok call h => ?_⟩
  exact ⟨_, perform_get_of_renderIn ok h, rfl, linesOf_intercalate_iff.mpr⟩

/-! ### A scope that holds the empty key -/

/-- A scope that holds the empty key as an import. -/
def holdingBlank : Scope := ⟨⟨FlagSet.empty.insert "", false⟩, ⟨.empty, false⟩⟩

theorem listing_readBack_pets : ∃ after,
    (ofEngine units .default).1.renderIn "pets" (.obj []) .first (.single holdingBlank) =
      (.ok ⟨"", ["", "IPet"], []⟩, after) ∧
    IsLegible ["", "IPet"] ∧
    (∃ text, ((EntryCall.function ⟨.imports, .get⟩ []).action .first).perform after =
      (.ok (.str text), after) ∧ linesOf text = ["", "IPet"]) ∧
    linesOf (holdingBlank.imports.flags.insert "IPet").listing = ["", "IPet"] ∧
    ∀ t : FlagSet, IsLegible t.keys → t.listing = "\nIPet" →
      t = holdingBlank.imports.flags.insert "IPet" := by
  have legible : IsLegible ["", "IPet"] := ⟨by decide, by decide⟩
  have rendered : ((ofEngine units .default).1.renderIn "pets" (.obj []) .first
      (.single holdingBlank)).1 = .ok ⟨"", ["", "IPet"], []⟩ := by decide +kernel
  have render := Prod.ext rendered
    (Eq.refl (renderIn _ "pets" (.obj []) .first (.single holdingBlank)).2)
  obtain ⟨sets, apart, renders⟩ := listing_readBack
  obtain ⟨text, gives, -, lines⟩ := renders _ _ _ _ _ _ _ render (.function ⟨.imports, .get⟩ []) rfl
  exact ⟨_, render, legible, ⟨text, gives, lines legible⟩,
    (sets (holdingBlank.imports.flags.insert "IPet") legible).1,
    fun t ht same => apart t _ ht legible same⟩

end Environment

end ApiStencil
