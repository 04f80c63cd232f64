import ApiStencil.Json.Print
import ApiStencil.Json.Draft
import Mathlib.Data.List.Basic

/-!
# Reading JSON

Strings with their escapes, and objects without nesting, are read back as they were, whatever blanks
stand between their members.  A text that is JSON to its end has a draft that is well formed in every
place.

* `Draft.readString_escaped` — any characters between quotes;
* `Draft.ofText_spread` — an object whose members are nulls, booleans and strings; `ofText_pretty` over
  several lines, `ofText_write` on one line;
* `Draft.wellFormed_of_ofText` — nothing is broken in a text that is read to its end.
-/

namespace ApiStencil.Json

/-! ### Strings -/

namespace Draft

lemma hexValue?_hexDigit : ∀ n < 16, hexValue? (hexDigit n) = some n := by decide

lemma hexUnit?_control {n : Nat} (hn : n < 0x20) (rest : List Char) :
    hexUnit? ('0' :: '0' :: hexDigit (n / 16) :: hexDigit (n % 16) :: rest) = some (n, rest) := by
  have hhigh : hexValue? (hexDigit (n / 16)) = some (n / 16) := hexValue?_hexDigit _ (by omega)
  have hlow : hexValue? (hexDigit (n % 16)) = some (n % 16) := hexValue?_hexDigit _ (by omega)
  have hzero : hexValue? '0' = some 0 := by decide
  have hvalue : n / 16 * 16 + n % 16 = n := by omega
  simp [hexUnit?, hhigh, hlow, hzero, hvalue]

section Step

variable {fuel : Nat} {c e : Char} {rest : List Char}

lemma readString_short (h : shortEscape? e = some c) :
    readString (fuel + 1) ('\\' :: e :: rest)
      = (readString fuel rest).map fun (text, rest) => (Stretch.cons c text, rest) := by
  have hu : e ≠ 'u' := by
    rintro rfl
    cases h
  rw [readString.eq_def]
  simp only [h, Option.bind_eq_bind, Option.bind_some]
  cases readString fuel rest <;> rfl

lemma readString_plain (hq : c ≠ '"') (hb : c ≠ '\\') (hn : ¬ c.toNat < 0x20) :
    readString (fuel + 1) (c :: rest)
      = (readString fuel rest).map fun (text, rest) => (Stretch.cons c text, rest) := by
  rw [readString.eq_def]
  simp only [hb, hn, imp_false, IsEmpty.forall_iff, implies_true, if_false, Option.bind_eq_bind]
  cases readString fuel rest <;> rfl

lemma readString_control (hn : c.toNat < 0x20) :
    readString (fuel + 1)
        ('\\' :: 'u' :: '0' :: '0' :: hexDigit (c.toNat / 16) :: hexDigit (c.toNat % 16) :: rest)
      = (readString fuel rest).map fun (text, rest) => (Stretch.cons c text, rest) := by
  have hsmall : c.toNat < 0xD800 ∨ 0xE000 ≤ c.toNat := by omega
  rw [readString.eq_def]
  simp only [hexUnit?_control hn, Option.bind_eq_bind, Option.bind_some, if_pos hsmall,
    Char.ofNat_toNat]
  cases readString fuel rest <;> rfl

/-- One character of a string is read from its escape. -/
theorem readString_escapeChar (fuel : Nat) (c : Char) (rest : List Char) :
    readString (fuel + 1) (escapeChar c ++ rest)
      = (readString fuel rest).map fun (text, rest) => (Stretch.cons c text, rest) := by
  by_cases hshort : c ∈ ['"', '\\', '\n', '\r', '\t', '\x08', '\x0c']
  · simp only [List.mem_cons, List.not_mem_nil, or_false] at hshort
    rcases hshort with rfl | rfl | rfl | rfl | rfl | rfl | rfl <;> exact readString_short rfl
  · simp only [List.mem_cons, List.not_mem_nil, or_false, not_or] at hshort
    obtain ⟨hquote, hslash, hfeed, hreturn, htab, hback, hform⟩ := hshort
    simp only [escapeChar, if_neg hquote, if_neg hslash, if_neg hfeed, if_neg hreturn, if_neg htab,
      if_neg hback, if_neg hform]
    by_cases hn : c.toNat < 0x20
    · rw [if_pos hn]
      exact readString_control hn
    · rw [if_neg hn]
      exact readString_plain hquote hslash hn

end Step

/-- **Any characters between quotes** are read back. -/
theorem readString_escaped {fuel : Nat} {cs : List Char} (h : cs.length < fuel) (rest : List Char) :
    readString fuel (cs.flatMap escapeChar ++ '"' :: rest) = some (some cs, rest) := by
  induction cs generalizing fuel with
  | nil =>
    obtain ⟨fuel, rfl⟩ : ∃ n, fuel = n + 1 := ⟨fuel - 1, by simp at h; omega⟩
    simp [readString]
  | cons c cs ih =>
    obtain ⟨fuel, rfl⟩ : ∃ n, fuel = n + 1 := ⟨fuel - 1, by simp at h; omega⟩
    rw [List.flatMap_cons, List.append_assoc, readString_escapeChar,
      ih (by simpa using h)]
    rfl

lemma length_le_escaped (cs : List Char) : cs.length ≤ (cs.flatMap escapeChar).length := by
  induction cs with
  | nil => simp
  | cons c cs ih =>
    have hc : 1 ≤ (escapeChar c).length := by
      unfold escapeChar
      repeat' split
      all_goals simp
    simp only [List.flatMap_cons, List.length_append, List.length_cons]
    omega

end Draft

/-! ### Objects -/

namespace Value

/-- Whether a value is null, a boolean or a string. -/
def isFlat : Value → Bool
  | .null | .bool _ | .str _ => true
  | _ => false

/-- A member as text, with blanks after the colon. -/
def entry (afterColon : String) (m : String × Value) : String :=
  escapeText m.1 ++ (":" ++ afterColon ++ m.2.write)

/-- Members as text, with blanks after each colon and after each comma. -/
def spread (afterColon afterComma : String) (members : List (String × Value)) : String :=
  ("," ++ afterComma).intercalate (members.map (entry afterColon))

lemma writeMembers_eq (members : List (String × Value)) :
    writeMembers members = members.map (entry "") := by
  induction members with
  | nil => rfl
  | cons m rest ih => rw [writeMembers, ih, List.map_cons, entry, String.append_assoc]; rfl

lemma prettyMembers_eq {members : List (String × Value)} (hflat : ∀ m ∈ members, m.2.isFlat)
    (indent : String) : prettyMembers indent members = members.map (entry " ") := by
  induction members with
  | nil => rfl
  | cons m rest ih =>
    obtain ⟨key, v⟩ := m
    have hv : v.pretty indent = v.write := by
      have flat := hflat (key, v) List.mem_cons_self
      cases v with
      | num n => cases flat
      | arr items => cases flat
      | obj members => cases flat
      | _ => rfl
    rw [prettyMembers, ih fun m hm => hflat m (List.mem_cons_of_mem _ hm), List.map_cons, hv, entry,
      String.append_assoc]
    rfl

end Value

lemma toList_escapeText (s : String) :
    (escapeText s).toList = '"' :: (s.toList.flatMap escapeChar ++ ['"']) := by
  rw [escapeText, String.toList_ofList]
  rfl

namespace Draft

/-- Whether characters are blanks. -/
def Blanks (gap : List Char) : Prop := ∀ c ∈ gap, isSpace c = true

section Skip

variable {gap : List Char} (h : Blanks gap) (fuel : ℕ) (cs : List Char)

include h

lemma skipSpace_append : skipSpace (gap ++ cs) = skipSpace cs :=
  List.dropWhile_append_of_pos h

lemma readValue_skip : readValue fuel (gap ++ cs) = readValue fuel cs := by
  cases fuel with
  | zero => rw [readValue, readValue]
  | succ fuel => rw [readValue, skipSpace_append h, readValue]

lemma readMembers_skip : readMembers fuel (gap ++ cs) = readMembers fuel cs := by
  cases fuel with
  | zero => rw [readMembers, readMembers]
  | succ fuel => rw [readMembers, skipSpace_append h, readMembers]

end Skip

lemma readString_text (s : String) (rest : List Char) :
    readString ((s.toList.flatMap escapeChar ++ '"' :: rest).length + 1)
        (s.toList.flatMap escapeChar ++ '"' :: rest) = some (some s.toList, rest) := by
  apply readString_escaped
  have := length_le_escaped s.toList
  simp only [List.length_append, List.length_cons]
  omega

lemma readValue_flat {v : Value} (hv : v.isFlat) (fuel : Nat) (rest : List Char) :
    readValue (fuel + 1) (v.write.toList ++ rest) = (ofValue v, some rest) := by
  cases v with
  | null =>
    simp [Value.write, readValue, skipSpace, isSpace, readWord, dropWord?, ofValue]
  | bool b =>
    cases b <;>
      simp [Value.write, readValue, skipSpace, isSpace, readWord, dropWord?, ofValue]
  | str s =>
    have htext : (Value.str s).write.toList ++ rest
        = '"' :: (s.toList.flatMap escapeChar ++ '"' :: rest) := by
      simp [Value.write, toList_escapeText]
    have hskip (cs : List Char) : skipSpace ('"' :: cs) = '"' :: cs := rfl
    rw [htext, readValue.eq_def]
    simp only [hskip, readString_text, String.ofList_toList, ofValue]
  | num n => cases hv
  | arr items => cases hv
  | obj members => cases hv

/-- How the reading of an object goes on after a member. -/
def afterMember (fuel : Nat) (member : String × Draft) :
    List Char → List (String × Draft) × Option (List Char)
  | '\x7d' :: rest => ([member], some rest)
  | ',' :: rest =>
    let (members, rest) := readMembers fuel rest
    (member :: members, rest)
  | _ => ([member], none)

section Layout

variable {afterColon afterComma : String} {members : List (String × Value)}

/-- One member is read, and what comes after it decides how the reading goes on. -/
lemma readMembers_member (hcolon : Blanks afterColon.toList) {m : String × Value}
    (hv : m.2.isFlat) (fuel : Nat) (rest : List Char) :
    readMembers (fuel + 2) ((Value.entry afterColon m).toList ++ rest)
      = afterMember (fuel + 1) (m.1, ofValue m.2) (skipSpace rest) := by
  have hvalue : readValue (fuel + 1) (afterColon.toList ++ (m.2.write.toList ++ rest))
      = (ofValue m.2, some rest) := (readValue_skip hcolon _ _).trans (readValue_flat hv fuel rest)
  have htext : (Value.entry afterColon m).toList ++ rest
      = '"' :: (m.1.toList.flatMap escapeChar ++
        '"' :: ':' :: (afterColon.toList ++ (m.2.write.toList ++ rest))) := by
    simp [Value.entry, toList_escapeText]
  have hquote (cs : List Char) : skipSpace ('"' :: cs) = '"' :: cs := rfl
  have hmark (cs : List Char) : skipSpace (':' :: cs) = ':' :: cs := rfl
  rw [htext, readMembers.eq_def]
  simp only [hquote, readString_text, String.ofList_toList, hmark, hvalue]
  rfl

/-- **The members of an object** are read back. -/
theorem readMembers_spread (hcolon : Blanks afterColon.toList) (hcomma : Blanks afterComma.toList)
    {ending : List Char} (hending : Blanks ending) (hne : members ≠ [])
    (hflat : ∀ m ∈ members, m.2.isFlat) (fuel : Nat) (hfuel : members.length < fuel)
    (rest : List Char) :
    readMembers fuel
        ((Value.spread afterColon afterComma members).toList ++ (ending ++ '\x7d' :: rest))
      = (ofMembers members, some rest) := by
  induction members generalizing fuel with
  | nil => exact absurd rfl hne
  | cons m others ih =>
    obtain ⟨fuel, rfl⟩ : ∃ n, fuel = n + 2 := ⟨fuel - 2, by simp at hfuel; omega⟩
    have hv : m.2.isFlat := hflat m List.mem_cons_self
    cases others with
    | nil =>
      have hclose : skipSpace (ending ++ '\x7d' :: rest) = '\x7d' :: rest :=
        skipSpace_append hending _
      rw [Value.spread, List.map_singleton, String.intercalate_singleton,
        readMembers_member hcolon hv, hclose]
      rfl
    | cons other others =>
      have hnext := ih (List.cons_ne_nil _ _) (fun m hm => hflat m (List.mem_cons_of_mem _ hm))
        (fuel + 1) (by simpa using hfuel)
      have htext : (Value.spread afterColon afterComma (m :: other :: others)).toList
          = (Value.entry afterColon m).toList ++ ',' :: (afterComma.toList ++
            (Value.spread afterColon afterComma (other :: others)).toList) := by
        simp [Value.spread]
      rw [htext, List.append_assoc, readMembers_member hcolon hv, List.cons_append,
        List.append_assoc, skipSpace, List.dropWhile_cons_of_neg (by decide)]
      simp only [afterMember, readMembers_skip hcomma, hnext]
      rfl

lemma length_le_spread :
    members.length ≤ (Value.spread afterColon afterComma members).toList.length := by
  induction members with
  | nil => simp
  | cons m others ih =>
    cases others with
    | nil => simp [Value.spread, Value.entry, toList_escapeText]
    | cons other others =>
      simp only [Value.spread, List.map_cons, String.intercalate_cons_cons, String.toList_append,
        List.length_append, List.length_cons] at ih ⊢
      have hone : (",".toList).length = 1 := rfl
      omega

lemma spread_starts (hne : members ≠ []) :
    ∃ rest, (Value.spread afterColon afterComma members).toList = '"' :: rest := by
  cases members with
  | nil => exact absurd rfl hne
  | cons m others =>
    cases others with
    | nil => simp [Value.spread, Value.entry, toList_escapeText]
    | cons other others => simp [Value.spread, Value.entry, toList_escapeText]

lemma readValue_object {fuel : Nat} {cs start after : List Char} {members : List (String × Draft)}
    (hstart : skipSpace cs = '"' :: start)
    (h : readMembers fuel ('"' :: start) = (members, some after)) :
    readValue (fuel + 1) ('\x7b' :: cs) = (.obj members true, some after) := by
  have hbrace : skipSpace ('\x7b' :: cs) = '\x7b' :: cs := rfl
  rw [readValue.eq_def]
  simp only [hbrace, hstart]
  split
  · rename_i heq
    cases heq
  · simp only [h]
    rfl

/-- **An object without nesting**, with blanks after its braces, colons and commas, is read back. -/
theorem ofText_spread (hcolon : Blanks afterColon.toList) (hcomma : Blanks afterComma.toList)
    {opening ending : List Char} (hopening : Blanks opening) (hending : Blanks ending)
    (hne : members ≠ []) (hflat : ∀ m ∈ members, m.2.isFlat) {text : String}
    (htext : text.toList = '\x7b' :: (opening ++
      ((Value.spread afterColon afterComma members).toList ++ (ending ++ ['\x7d'])))) :
    ofText text = (ofValue (.obj members), true) := by
  have hlength : members.length ≤ (Value.spread afterColon afterComma members).toList.length :=
    length_le_spread
  obtain ⟨start, hstart⟩ : ∃ rest,
      (Value.spread afterColon afterComma members).toList = '"' :: rest := spread_starts hne
  obtain ⟨fuel, hfuel⟩ : ∃ n, 2 * text.toList.length = n := ⟨_, rfl⟩
  have hread := readMembers_spread hcolon hcomma hending hne hflat fuel
    (by rw [htext] at hfuel; simp at hfuel; omega) []
  rw [hstart] at htext hread
  have hskip : skipSpace (opening ++ ('"' :: start ++ (ending ++ ['\x7d'])))
      = '"' :: (start ++ (ending ++ ['\x7d'])) := skipSpace_append hopening _
  rw [ofText, hfuel, htext, readValue_object hskip hread]
  rfl

end Layout

lemma blanks_text (s : String) (h : s.toList.all isSpace = true) : Blanks s.toList :=
  List.all_eq_true.mp h

/-- An object without nesting, printed over several lines, is read back. -/
theorem ofText_pretty {members : List (String × Value)} (hflat : ∀ m ∈ members, m.2.isFlat) :
    ofText ((Value.obj members).pretty "") = (ofValue (.obj members), true) := by
  by_cases hne : members = []
  · subst hne
    rfl
  · refine ofText_spread (blanks_text " " (by decide)) (blanks_text "\n  " (by decide))
      (blanks_text "\n  " (by decide)) (blanks_text "\n" (by decide)) hne hflat ?_
    have hentries : (members.map (Value.entry " ")).isEmpty = false := by
      simpa using hne
    simp [Value.pretty, Value.prettyMembers_eq hflat, Value.block, hentries, Value.spread]

/-- An object without nesting, written on one line, is read back. -/
theorem ofText_write {members : List (String × Value)} (hflat : ∀ m ∈ members, m.2.isFlat) :
    ofText (Value.obj members).write = (ofValue (.obj members), true) := by
  by_cases hne : members = []
  · subst hne
    rfl
  · have none : Blanks "".toList := blanks_text "" (by decide)
    refine ofText_spread none none none none hne hflat ?_
    simp [Value.write, Value.writeMembers_eq, Value.spread]

/-! ### What is well formed -/

section Formed

variable {fuel : ℕ} {cs rest : List Char} {d : Draft} {items : List Draft}
  {members : List (String × Draft)}

lemma wellFormed_of_readValue
    (hitems : ∀ {cs items rest}, readItems fuel cs = (items, some rest) →
      wellFormedItems items = true)
    (hmembers : ∀ {cs members rest}, readMembers fuel cs = (members, some rest) →
      wellFormedMembers members = true)
    (h : readValue (fuel + 1) cs = (d, some rest)) : d.wellFormed = true := by
  have word : ∀ {w : String} {v : Draft} {cs : List Char}, v.wellFormed = true →
      readWord w v cs = (d, some rest) → d.wellFormed = true := by
    intro w v cs formed read
    unfold readWord at read
    split at read
    · cases read
      exact formed
    · cases read
  rw [readValue.eq_def] at h
  dsimp only at h
  split at h
  · cases h
  · exact word rfl h
  · exact word rfl h
  · exact word rfl h
  · split at h <;> cases h <;> rfl
  · split at h
    · cases h
      rfl
    · obtain ⟨rfl, read⟩ := Prod.mk.inj h
      rw [wellFormed, read]
      exact hitems (Prod.ext rfl read)
  · split at h
    · cases h
      rfl
    · obtain ⟨rfl, read⟩ := Prod.mk.inj h
      rw [wellFormed, read]
      exact hmembers (Prod.ext rfl read)
  · split at h
    · split at h
      · split at h <;> cases h <;> rfl
      · cases h
    · cases h

lemma wellFormed_of_readItems
    (hvalue : ∀ {cs d rest}, readValue fuel cs = (d, some rest) → d.wellFormed = true)
    (hitems : ∀ {cs items rest}, readItems fuel cs = (items, some rest) →
      wellFormedItems items = true)
    (h : readItems (fuel + 1) cs = (items, some rest)) : wellFormedItems items = true := by
  rw [readItems.eq_def] at h
  dsimp only at h
  split at h
  · cases h
  · rename_i item after read
    have first := hvalue read
    split at h
    · cases h
      simp [wellFormedItems, first]
    · obtain ⟨rfl, others⟩ := Prod.mk.inj h
      simp [wellFormedItems, first, hitems (Prod.ext rfl others)]
    · cases h

lemma wellFormed_of_readMembers
    (hvalue : ∀ {cs d rest}, readValue fuel cs = (d, some rest) → d.wellFormed = true)
    (hmembers : ∀ {cs members rest}, readMembers fuel cs = (members, some rest) →
      wellFormedMembers members = true)
    (h : readMembers (fuel + 1) cs = (members, some rest)) : wellFormedMembers members = true := by
  rw [readMembers.eq_def] at h
  dsimp only at h
  split at h
  · split at h
    · split at h
      · split at h
        · cases h
        · rename_i item after read
          have first := hvalue read
          split at h
          · cases h
            simp [wellFormedMembers, first]
          · obtain ⟨rfl, others⟩ := Prod.mk.inj h
            simp [wellFormedMembers, first, hmembers (Prod.ext rfl others)]
          · cases h
      · cases h
    · cases h
  · cases h

/-- **What is read to its end is well formed.** -/
theorem wellFormed_of_read (fuel : ℕ) :
    (∀ {cs d rest}, readValue fuel cs = (d, some rest) → d.wellFormed = true) ∧
    (∀ {cs items rest}, readItems fuel cs = (items, some rest) → wellFormedItems items = true) ∧
    ∀ {cs members rest}, readMembers fuel cs = (members, some rest) →
      wellFormedMembers members = true := by
  induction fuel with
  | zero =>
    refine ⟨?_, ?_, ?_⟩
    · intro cs d rest read
      rw [readValue] at read
      cases read
    · intro cs items rest read
      rw [readItems] at read
      cases read
    · intro cs members rest read
      rw [readMembers] at read
      cases read
  | succ fuel ih =>
    obtain ⟨value, items, members⟩ := ih
    exact ⟨wellFormed_of_readValue items members, wellFormed_of_readItems value items,
      wellFormed_of_readMembers value members⟩

/-- A text that is JSON to its end has a well-formed draft. -/
theorem wellFormed_of_ofText {text : String} (h : ofText text = (d, true)) :
    d.wellFormed = true := by
  unfold ofText at h
  dsimp only at h
  split at h
  · rename_i read
    cases congrArg Prod.fst h
    exact (wellFormed_of_read _).1 read
  · cases congrArg Prod.snd h

end Formed

end Draft

end ApiStencil.Json
