import ApiStencil.Filters.Api
import ApiStencil.Proofs.Result
import Mathlib.Data.List.Basic
import Mathlib.Logic.Function.Basic

/-!
# Choosing records by location

The two filters that choose records by location deal a list out: every record goes to one of them,
and both keep the order of the list.  A record without a location, or one whose location is no known
tag, is never chosen; so an unknown tag chooses nothing, though records may carry that very tag.

* `Dealt` — a list that is dealt out to parts;
* `paramIn_result`, `paramNotIn_result` — what the filters give, for known and unknown tags alike;
* `paramIn_paramNotIn_dealt` — all that follows for lists, for two filters in a row, and for input
  of another shape.
-/

namespace ApiStencil

open Json

/-! ### Dealing lists out -/

/-- A list is dealt out to parts: every item goes to exactly one part, and in each part the items
have the order of the list. -/
inductive Dealt {ι α : Type} [DecidableEq ι] : (ι → List α) → List α → Prop
  | nil : Dealt (fun _ => []) []
  | cons {parts : ι → List α} {rest : List α} (i : ι) (x : α) (h : Dealt parts rest) :
    Dealt (Function.update parts i (x :: parts i)) (x :: rest)

namespace Dealt

variable {ι α : Type} [DecidableEq ι]

/-- Labels deal a list out. -/
theorem filter (label : α → ι) (items : List α) :
    Dealt (fun i => items.filter fun x => label x = i) items := by
  induction items with
  | nil => exact .nil
  | cons x rest ih =>
    have parts : (fun i => (x :: rest).filter fun x => label x = i) =
        Function.update (fun i => rest.filter fun x => label x = i) (label x)
          (x :: rest.filter fun y => label y = label x) := by
      funext i
      by_cases h : i = label x
      · subst h
        simp
      · rw [Function.update_of_ne h, List.filter_cons_of_neg (by simpa using Ne.symm h)]
    rw [parts]
    exact .cons (label x) x ih

end Dealt

/-! ### Recognised locations -/

namespace Location

/-- A record is recognised to be at a location: its member `in`, or its member `location` if there
is no member `in`, is the tag of that location. -/
def Recognised (record : Value) (l : Location) : Prop :=
  ∃ members, record = .obj members ∧
    (members.lookup "in").or (members.lookup "location") = some (.str l.tag)

theorem ofRecord?_eq_some_iff {record : Value} {l : Location} :
    ofRecord? record = some l ↔ Recognised record l := by
  constructor
  · intro h
    cases record with
    | obj members =>
      obtain ⟨s, text, tag⟩ := Option.bind_eq_some_iff.mp h
      obtain ⟨v, found, text⟩ := Option.bind_eq_some_iff.mp text
      refine ⟨members, rfl, ?_⟩
      cases v with
      | str s' =>
        cases text
        rw [← eq_tag_of_ofTag? tag]
        exact found
      | _ => cases text
    | _ => cases h
  · rintro ⟨members, rfl, found⟩
    simp only [ofRecord?, Value.get?, found, Option.bind_some, Value.asText?]
    exact ofTag?_tag l

end Location

/-! ### Results of filters -/

/-- What a filter gives where nothing has been accumulated yet. -/
def Filter.result (f : Filter) (v : Value) (args : Arguments) : Except Failure Value :=
  ((f.run v args).perform ⟨.empty, []⟩).1

namespace Filters

/-- The records that a value is a list of; null is the list without records. -/
def recordsOf? : Value → Option (List Value)
  | .null => some []
  | .arr items => some items
  | _ => none

/-- The tag that the arguments ask for. -/
def tagOf? (args : Arguments) : Option String := args.lookup "location" >>= Value.asText?

/-- Whether a record is at the location that a tag names. -/
def isAt (tag : String) (record : Value) : Bool :=
  (Location.ofRecord? record).map Location.tag = some tag

lemma isAt_iff {tag : String} {record : Value} :
    isAt tag record = true ↔ ∃ l, tag = Location.tag l ∧ Location.Recognised record l := by
  simp only [isAt, decide_eq_true_iff, Option.map_eq_some_iff, Location.ofRecord?_eq_some_iff]
  constructor
  · rintro ⟨l, at_, rfl⟩
    exact ⟨l, rfl, at_⟩
  · rintro ⟨l, rfl, at_⟩
    exact ⟨l, at_, rfl⟩

lemma isAt_eq_of_ofTag? {tag : String} {l : Location} (h : Location.ofTag? tag = some l)
    (record : Value) : isAt tag record = decide (Location.ofRecord? record = some l) := by
  obtain rfl := Location.eq_tag_of_ofTag? h
  have injective : ∀ l', Location.tag l' = l.tag ↔ l' = l := by
    intro l'
    cases l <;> cases l' <;> decide
  cases found : Location.ofRecord? record with
  | none => simp [isAt, found]
  | some l' => simp [isAt, found, injective]

lemma isAt_eq_false_of_ofTag? {tag : String} (h : Location.ofTag? tag = none) (record : Value) :
    isAt tag record = false := by
  refine Bool.eq_false_iff.mpr fun at_ => ?_
  obtain ⟨l, rfl, -⟩ := isAt_iff.mp at_
  rw [Location.ofTag?_tag] at h
  cases h

lemma tagOf?_eq_some_iff {args : Arguments} {tag : String} :
    tagOf? args = some tag ↔ args.lookup "location" = some (.str tag) := by
  unfold tagOf?
  cases args.lookup "location" with
  | none => simp
  | some v => cases v <;> simp [Value.asText?]

/-- What a filter gives that reads a list and a tag and keeps some of the records. -/
lemma kept_toOption (filter : String) (keep : String → Value → Bool) (v : Value)
    (args : Arguments) :
    (do
      let records ← optionalArray filter v
      let tag ← textArgument filter "location" args
      .ok (.arr ((records.getD []).filter (keep tag))) : Except Failure Value).toOption = (do
      let records ← recordsOf? v
      let tag ← tagOf? args
      some (.arr (records.filter (keep tag)))) := by
  have tags : (textArgument filter "location" args).toOption = tagOf? args := by
    unfold textArgument requiredArgument tagOf?
    cases args.lookup "location" with
    | none => rfl
    | some w => cases w <;> rfl
  rw [← tags]
  cases v with
  | null | arr => cases textArgument filter "location" args <;> rfl
  | _ => rfl

/-- **What is chosen**: the records at the location of the tag, whether the tag is known or not. -/
theorem paramIn_result (v : Value) (args : Arguments) :
    (paramIn.result v args).toOption = (do
      let records ← recordsOf? v
      let tag ← tagOf? args
      some (.arr (records.filter (isAt tag)))) := by
  rw [← kept_toOption paramInName]
  refine congrArg Except.toOption ?_
  refine congrArg (optionalArray paramInName v >>= ·) (funext fun records => ?_)
  refine congrArg (textArgument paramInName "location" args >>= ·) (funext fun tag => ?_)
  cases known : Location.ofTag? tag with
  | none => simp [isAt_eq_false_of_ofTag? known]
  | some l => simp [funext (isAt_eq_of_ofTag? known), Parameter.atLocation]

/-- **What is not chosen**: all other records. -/
theorem paramNotIn_result (v : Value) (args : Arguments) :
    (paramNotIn.result v args).toOption = (do
      let records ← recordsOf? v
      let tag ← tagOf? args
      some (.arr (records.filter (!isAt tag ·)))) := by
  rw [← kept_toOption paramNotInName (fun tag x => !isAt tag x)]
  refine congrArg Except.toOption ?_
  refine congrArg (optionalArray paramNotInName v >>= ·) (funext fun records => ?_)
  refine congrArg (textArgument paramNotInName "location" args >>= ·) (funext fun tag => ?_)
  cases known : Location.ofTag? tag with
  | none => simp [isAt_eq_false_of_ofTag? known]
  | some l => simp [isAt_eq_of_ofTag? known, Parameter.notAtLocation]

lemma paramIn_eq_ok_iff {v w : Value} {args : Arguments} :
    paramIn.result v args = .ok w ↔ ∃ records tag, recordsOf? v = some records ∧
      tagOf? args = some tag ∧ w = .arr (records.filter (isAt tag)) := by
  rw [← toOption_eq_some_iff, paramIn_result]
  cases recordsOf? v <;> cases tagOf? args <;> simp [eq_comm]

lemma paramNotIn_eq_ok_iff {v w : Value} {args : Arguments} :
    paramNotIn.result v args = .ok w ↔ ∃ records tag, recordsOf? v = some records ∧
      tagOf? args = some tag ∧ w = .arr (records.filter (!isAt tag ·)) := by
  rw [← toOption_eq_some_iff, paramNotIn_result]
  cases recordsOf? v <;> cases tagOf? args <;> simp [eq_comm]

/-! ### Two filters in a row -/

lemma paramIn_paramIn_of_ne {v w : Value} {args args' : Arguments} {tag tag' : String}
    (asks : tagOf? args = some tag) (asks' : tagOf? args' = some tag') (ne : tag ≠ tag')
    (h : paramIn.result v args = .ok w) : paramIn.result w args' = .ok (.arr []) := by
  obtain ⟨records, _, -, asked, rfl⟩ := paramIn_eq_ok_iff.mp h
  obtain rfl := Option.some.inj (asked.symm.trans asks)
  refine paramIn_eq_ok_iff.mpr ⟨_, tag', rfl, asks', congrArg Value.arr ?_⟩
  -- a record is at one location only
  refine (List.filter_eq_nil_iff.mpr fun x chosen at_ => ne ?_).symm
  obtain ⟨l, rfl, found⟩ := isAt_iff.mp (List.of_mem_filter chosen)
  obtain ⟨l', rfl, found'⟩ := isAt_iff.mp at_
  rw [← Location.ofRecord?_eq_some_iff] at found found'
  rw [Option.some.inj (found.symm.trans found')]

lemma paramIn_idempotent {v w : Value} {args : Arguments} (h : paramIn.result v args = .ok w) :
    paramIn.result w args = .ok w := by
  obtain ⟨records, tag, -, asks, rfl⟩ := paramIn_eq_ok_iff.mp h
  refine paramIn_eq_ok_iff.mpr ⟨_, tag, rfl, asks, ?_⟩
  simp only [List.filter_filter, Bool.and_self]

lemma paramNotIn_idempotent {v w : Value} {args : Arguments}
    (h : paramNotIn.result v args = .ok w) : paramNotIn.result w args = .ok w := by
  obtain ⟨records, tag, -, asks, rfl⟩ := paramNotIn_eq_ok_iff.mp h
  refine paramNotIn_eq_ok_iff.mpr ⟨_, tag, rfl, asks, ?_⟩
  simp only [List.filter_filter, Bool.and_self]

lemma paramNotIn_paramNotIn_eq_ok_iff {v u : Value} {args args' : Arguments} :
    (paramNotIn.result v args >>= fun w => paramNotIn.result w args') = .ok u ↔
      ∃ records tag tag', recordsOf? v = some records ∧ tagOf? args = some tag ∧
        tagOf? args' = some tag' ∧
        u = .arr (records.filter fun x => !isAt tag x && !isAt tag' x) := by
  rw [bind_eq_ok_iff]
  constructor
  · rintro ⟨w, first, second⟩
    obtain ⟨records, tag, reads, asks, rfl⟩ := paramNotIn_eq_ok_iff.mp first
    obtain ⟨others, tag', same, asks', rfl⟩ := paramNotIn_eq_ok_iff.mp second
    obtain rfl := Option.some.inj same
    refine ⟨records, tag, tag', reads, asks, asks', ?_⟩
    simp only [List.filter_filter, Bool.and_comm]
  · rintro ⟨records, tag, tag', reads, asks, asks', rfl⟩
    refine ⟨_, paramNotIn_eq_ok_iff.mpr ⟨records, tag, reads, asks, rfl⟩, ?_⟩
    refine paramNotIn_eq_ok_iff.mpr ⟨_, tag', rfl, asks', ?_⟩
    simp only [List.filter_filter, Bool.and_comm]

lemma paramNotIn_comm (v : Value) (args args' : Arguments) :
    (paramNotIn.result v args >>= fun w => paramNotIn.result w args').toOption =
      (paramNotIn.result v args' >>= fun w => paramNotIn.result w args).toOption := by
  ext u
  rw [toOption_eq_some_iff, toOption_eq_some_iff, paramNotIn_paramNotIn_eq_ok_iff,
    paramNotIn_paramNotIn_eq_ok_iff]
  constructor
  · rintro ⟨records, tag, tag', reads, asks, asks', rfl⟩
    exact ⟨records, tag', tag, reads, asks', asks, by simp only [Bool.and_comm]⟩
  · rintro ⟨records, tag, tag', reads, asks, asks', rfl⟩
    exact ⟨records, tag', tag, reads, asks', asks, by simp only [Bool.and_comm]⟩

/-! ### Lists dealt out -/

/-- One tag deals a list out to the two filters. -/
lemma dealt_isAt (tag : String) (items : List Value) :
    Dealt (fun inside : Bool => if inside then items.filter (isAt tag)
      else items.filter (!isAt tag ·)) items := by
  have parts : (fun inside : Bool => if inside then items.filter (isAt tag)
      else items.filter (!isAt tag ·)) =
        fun inside => items.filter fun x => isAt tag x = inside := by
    funext inside
    cases inside <;> simp
  rw [parts]
  exact .filter (isAt tag) items

/-- **Choosing by location deals a list out.**  The two filters fail on the same input; for null
they give the empty array; of a list every position goes to exactly one of them, to the one that
chooses if the tag names a location and the record is recognised to be there.  The six locations and
the records without any deal a list out as well.  Choosing at two locations in a row leaves nothing,
each filter gives its own results back, and leaving out in either order is the same. -/
theorem paramIn_paramNotIn_dealt :
    (∀ v args, (∃ e, paramIn.result v args = .error e) ↔
      ∃ e, paramNotIn.result v args = .error e) ∧
    (∀ (args : Arguments) tag, args.lookup "location" = some (.str tag) →
      paramIn.result .null args = .ok (.arr []) ∧ paramNotIn.result .null args = .ok (.arr []) ∧
      ∀ items, ∃ inside outside,
        paramIn.result (.arr items) args = .ok (.arr inside) ∧
        paramNotIn.result (.arr items) args = .ok (.arr outside) ∧
        Dealt (fun chosen : Bool => if chosen then inside else outside) items ∧
        inside.Sublist items ∧ outside.Sublist items ∧
        (∀ x ∈ items, x ∈ inside ↔ ∃ l, tag = Location.tag l ∧ Location.Recognised x l) ∧
        ∀ x ∈ items, x ∈ outside ↔ ¬ ∃ l, tag = Location.tag l ∧ Location.Recognised x l) ∧
    (∀ items, ∃ parts : Option Location → List Value, Dealt parts items ∧
      (∀ l, paramIn.result (.arr items) [("location", .str (Location.tag l))] =
        .ok (.arr (parts (some l)))) ∧
      ∀ x, x ∈ parts none ↔ x ∈ items ∧ ∀ l, ¬ Location.Recognised x l) ∧
    (∀ (args args' : Arguments) tag tag', args.lookup "location" = some (.str tag) →
      args'.lookup "location" = some (.str tag') → tag ≠ tag' →
        ∀ v w, paramIn.result v args = .ok w → paramIn.result w args' = .ok (.arr [])) ∧
    (∀ v w args, (paramIn.result v args = .ok w → paramIn.result w args = .ok w) ∧
      (paramNotIn.result v args = .ok w → paramNotIn.result w args = .ok w)) ∧
    ∀ v args args',
      (paramNotIn.result v args >>= fun w => paramNotIn.result w args').toOption =
        (paramNotIn.result v args' >>= fun w => paramNotIn.result w args).toOption := by
  refine ⟨fun v args => ?_, fun args tag asks => ?_, fun items => ?_, ?_, ?_, paramNotIn_comm⟩
  · rw [← toOption_eq_none_iff, ← toOption_eq_none_iff, paramIn_result, paramNotIn_result]
    cases recordsOf? v <;> cases tagOf? args <;> simp
  · have asks := tagOf?_eq_some_iff.mpr asks
    refine ⟨paramIn_eq_ok_iff.mpr ⟨[], tag, rfl, asks, rfl⟩,
      paramNotIn_eq_ok_iff.mpr ⟨[], tag, rfl, asks, rfl⟩, fun items => ?_⟩
    refine ⟨items.filter (isAt tag), items.filter (!isAt tag ·),
      paramIn_eq_ok_iff.mpr ⟨items, tag, rfl, asks, rfl⟩,
      paramNotIn_eq_ok_iff.mpr ⟨items, tag, rfl, asks, rfl⟩, dealt_isAt tag items,
      List.filter_sublist, List.filter_sublist, fun x mem => ?_, fun x mem => ?_⟩
    · rw [List.mem_filter, isAt_iff, and_iff_right mem]
    · rw [List.mem_filter, ← isAt_iff, and_iff_right mem, Bool.not_eq_true', Bool.not_eq_true]
  · refine ⟨fun label => items.filter fun x => Location.ofRecord? x = label, .filter _ items,
      fun l => ?_, fun x => ?_⟩
    · refine paramIn_eq_ok_iff.mpr ⟨items, l.tag, rfl, rfl, ?_⟩
      rw [funext (isAt_eq_of_ofTag? (Location.ofTag?_tag l))]
    · simp only [List.mem_filter, decide_eq_true_iff, ← Location.ofRecord?_eq_some_iff,
        Option.eq_none_iff_forall_ne_some, ne_eq]
  · intro args args' tag tag' asks asks' ne v w
    exact paramIn_paramIn_of_ne (tagOf?_eq_some_iff.mpr asks) (tagOf?_eq_some_iff.mpr asks') ne
  · exact fun v w args => ⟨paramIn_idempotent, paramNotIn_idempotent⟩

/-- Records at a location, under a tag that is none, and without any. -/
def taggedRecords : List Value :=
  [.obj [("in", .str "query")], .obj [("in", .str "Query")], .str "query"]

theorem paramIn_paramNotIn_dealt_unknown :
    List.lookup "location" [("location", Value.str "Query")] = some (.str "Query") ∧
      ∃ inside outside,
        paramIn.result (.arr taggedRecords) [("location", .str "Query")] = .ok (.arr inside) ∧
        paramNotIn.result (.arr taggedRecords) [("location", .str "Query")] = .ok (.arr outside) ∧
        Dealt (fun chosen : Bool => if chosen then inside else outside) taggedRecords := by
  have asks : List.lookup "location" [("location", Value.str "Query")] = some (.str "Query") := rfl
  obtain ⟨-, -, deals⟩ := paramIn_paramNotIn_dealt.2.1 _ _ asks
  obtain ⟨inside, outside, chosen, left, dealt, -⟩ := deals taggedRecords
  exact ⟨asks, inside, outside, chosen, left, dealt⟩

/-- Null is no excuse for a missing tag. -/
theorem paramIn_null_untagged :
    paramIn.result .null [] = .error (.argumentMissing paramInName "location") ∧
      ¬ ∀ args, paramIn.result .null args = .ok (.arr []) ∧
        paramNotIn.result .null args = .ok (.arr []) := by
  have missing : paramIn.result .null [] = .error (.argumentMissing paramInName "location") := rfl
  refine ⟨missing, fun always => ?_⟩
  rw [(always []).1] at missing
  cases missing

end Filters

end ApiStencil
