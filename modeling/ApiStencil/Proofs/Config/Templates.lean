import ApiStencil.Config
import ApiStencil.Proofs.Glob
import ApiStencil.Proofs.Text.Split

/-!
# The pattern for the templates of a directory

The directory and the extension are put into the pattern as they are, so the pattern matches the paths
of the templates (`IsTemplatePath`) only where it reads both literally (`ReadsLiterally`).

* `isExact_of_readsLiterally` — a pattern that does so is exact;
* `readsLiterally_of_isExact` — an exact pattern does so: the shortest path of a template leaves no
  room for stars and classes in it, and a question mark would match other characters as well;
* `glob?_exact_iff` — both for the pattern of a configuration, whose extension counts without the dots
  in front of it.
-/

namespace ApiStencil.Config

open Glob

variable {dir ext path : String}

/-! ### Paths of templates -/

/-- The path of a template: the directory, any number of directories below it, and a file whose name
ends with a dot and the extension, with slashes between them. -/
def IsTemplatePath (dir ext path : String) : Prop :=
  ∃ (below : List String) (stem : String),
    (∀ part ∈ below ++ [stem ++ "." ++ ext], '/' ∉ part.toList) ∧
      path = "/".intercalate (dir :: (below ++ [stem ++ "." ++ ext]))

/-- The path of a template, by what stands in it for the directories and for the rest of the name. -/
lemma isTemplatePath_iff : IsTemplatePath dir ext path ↔ '/' ∉ ext.toList ∧
    ∃ u r, Part.directories.Takes u ∧ Part.run.Takes r ∧
      path.toList = dir.toList ++ '/' :: (u ++ (r ++ '.' :: ext.toList)) := by
  have joined (below : List String) (stem : String) :
      ("/".intercalate (dir :: (below ++ [stem ++ "." ++ ext]))).toList =
        dir.toList ++ '/' :: ((below.flatMap fun part => part.toList ++ ['/']) ++
          (stem.toList ++ '.' :: ext.toList)) := by
    rw [Text.toList_intercalate_between (c := '/') rfl]
    simp
  constructor
  · rintro ⟨below, stem, free, rfl⟩
    obtain ⟨freeBelow, freeName⟩ := List.forall_mem_append.mp free
    have freeName : '/' ∉ stem.toList ++ '.' :: ext.toList := by simpa using freeName
    rw [List.mem_append, not_or, List.mem_cons, not_or] at freeName
    exact ⟨freeName.2.2, _, stem.toList, Text.ended_iff.mpr ⟨below, freeBelow, rfl⟩, freeName.1,
      joined below stem⟩
  · rintro ⟨freeExt, u, r, directories, run, eq⟩
    obtain ⟨below, freeBelow, rfl⟩ := Text.ended_iff.mp directories
    refine ⟨below, String.ofList r, List.forall_mem_append.mpr ⟨freeBelow, ?_⟩, ?_⟩
    · have run : '/' ∉ r := run
      simp [run, freeExt]
    · rw [← String.toList_inj, eq, joined, String.toList_ofList]

/-! ### The pattern -/

/-- The pattern for the templates below a directory. -/
def patternFor (dir ext : String) : String := dir ++ "/" ++ ("**/*." ++ ext)

/-- The characters between the directory and the extension. -/
def between : List Char := ['/', '*', '*', '/', '*', '.']

lemma toList_patternFor (dir ext : String) :
    (patternFor dir ext).toList = dir.toList ++ (between ++ ext.toList) := by
  simp [patternFor, between]

/-- Every character of the directory and of the extension stands for itself in the pattern: there is
no star or question mark, and no bracket that opens a class. -/
def ReadsLiterally (dir ext : String) : Prop :=
  (∀ c ∈ dir.toList ++ ext.toList, c ≠ '*' ∧ c ≠ '?') ∧
    ∀ before after, (patternFor dir ext).toList = before ++ '[' :: after → ¬ Closes after

/-- The paths that match the pattern are those of the templates. -/
def IsExact (dir ext : String) : Prop :=
  ∀ path, matches? (patternFor dir ext) path = true ↔ IsTemplatePath dir ext path

/-- What stands between the directory and the extension is read as directories and the beginning of a
file name. -/
lemma reads_between {start : Bool} {cs : List Char} {parts : List Part}
    (reads : Reads start (between ++ cs) parts) : ∃ start' others,
      parts = .char '/' :: .directories :: .run :: .char '.' :: others ∧ Reads start' cs others := by
  cases reads with
  | char _ _ _ later =>
    rw [decide_eq_true rfl] at later
    cases later with
    | char star => exact absurd rfl star
    | run inner => exact absurd rfl (inner rfl _)
    | directories later =>
      cases later with
      | char star => exact absurd rfl star
      | run _ later =>
        cases later with
        | char _ _ _ later => exact ⟨_, _, rfl, later⟩

lemma reads_pattern (dir ext : String) :
    Reads true (dir.toList ++ (between ++ ext.toList)) (ofText (patternFor dir ext)) := by
  rw [← toList_patternFor]
  exact reads_partsOf (by rw [String.length_toList]; exact Nat.lt_succ_self _)

/-- The parts of a pattern in which every character stands for itself. -/
lemma ofText_of_readsLiterally (literal : ReadsLiterally dir ext) :
    ofText (patternFor dir ext) = dir.toList.map .char ++
      (.char '/' :: .directories :: .run :: .char '.' :: ext.toList.map .char) := by
  obtain ⟨marks, brackets⟩ := literal
  obtain ⟨marksDir, marksExt⟩ := List.forall_mem_append.mp marks
  rw [toList_patternFor] at brackets
  obtain ⟨_, _, eq, inner⟩ := (reads_pattern dir ext).literal marksDir fun before after split =>
    brackets before _ (by rw [split]; simp)
  obtain ⟨_, _, rfl, last⟩ := reads_between inner
  rw [eq, last.eq_chars marksExt fun before after split =>
    brackets (dir.toList ++ (between ++ before)) after (by rw [split]; simp)]

/-- **A pattern that is read literally matches the paths of templates**, and no others. -/
theorem isExact_of_readsLiterally (slash : '/' ∉ ext.toList) (literal : ReadsLiterally dir ext) :
    IsExact dir ext := by
  intro path
  rw [isTemplatePath_iff, matches?, ofText_of_readsLiterally literal, matchesFrom_chars_append]
  have last {v : List Char} : matchesFrom (ext.toList.map .char) v = true ↔ v = ext.toList := by
    rw [← List.append_nil (ext.toList.map Part.char), matchesFrom_chars_append]
    simp [matchesFrom]
  constructor
  · rintro ⟨_, eq, first⟩
    obtain ⟨_, _, rfl, rfl, second⟩ := matchesFrom_cons_iff.mp first
    obtain ⟨u, _, rfl, directories, third⟩ := matchesFrom_cons_iff.mp second
    obtain ⟨r, _, rfl, run, fourth⟩ := matchesFrom_cons_iff.mp third
    obtain ⟨_, _, rfl, rfl, ending⟩ := matchesFrom_cons_iff.mp fourth
    obtain rfl := last.mp ending
    exact ⟨slash, u, r, directories, run, eq⟩
  · rintro ⟨-, u, r, directories, run, eq⟩
    refine ⟨_, eq, matchesFrom_cons_iff.mpr ⟨['/'], _, rfl, rfl, ?_⟩⟩
    refine matchesFrom_cons_iff.mpr ⟨u, _, rfl, directories, ?_⟩
    refine matchesFrom_cons_iff.mpr ⟨r, _, rfl, run, ?_⟩
    exact matchesFrom_cons_iff.mpr ⟨['.'], _, rfl, rfl, last.mpr rfl⟩

/-! ### What an exact pattern is like -/

section Exact

variable (slash : '/' ∉ ext.toList) (exact : IsExact dir ext)
include slash exact

lemma matchesFrom_iff_of_isExact {cs : List Char} :
    matchesFrom (ofText (patternFor dir ext)) cs = true ↔
      ∃ u r, Part.directories.Takes u ∧ Part.run.Takes r ∧
        cs = dir.toList ++ '/' :: (u ++ (r ++ '.' :: ext.toList)) := by
  have matched := exact (String.ofList cs)
  rwa [matches?, isTemplatePath_iff, String.toList_ofList, and_iff_right slash] at matched

/-- There are templates below any number of directories, so a part of the pattern stands for these. -/
lemma directories_mem : Part.directories ∈ ofText (patternFor dir ext) := by
  by_contra flat
  let deep := List.replicate ((ofText (patternFor dir ext)).length + 1) '/'
  have taken : Part.directories.Takes deep := .inr ⟨_, List.replicate_succ'⟩
  have slashes := count_slash_le flat
    ((matchesFrom_iff_of_isExact slash exact).mpr ⟨deep, [], taken, List.not_mem_nil, rfl⟩)
  simp only [List.count_append, List.count_cons_self, deep, List.count_replicate_self] at slashes
  omega

/-- The shortest path of a template is as long as the directory and the extension with the slash and
the dot.  The text of the pattern has no room for this and for stars or classes of its own. -/
lemma plain_of_isExact : (∀ part ∈ ofText (patternFor dir ext), part.isClass = false) ∧
    '*' ∉ dir.toList ∧ '*' ∉ ext.toList := by
  have own := (matchesFrom_iff_of_isExact slash exact).mpr
    ⟨[], [], .inl rfl, List.not_mem_nil, rfl⟩
  obtain ⟨short, matched, length⟩ := exists_shortest own
  obtain ⟨u, r, -, -, rfl⟩ := (matchesFrom_iff_of_isExact slash exact).mp matched
  have directories : 0 < (ofText (patternFor dir ext)).countP (· = .directories) :=
    List.countP_pos_iff.mpr ⟨_, directories_mem slash exact, decide_eq_true rfl⟩
  have weight := (reads_pattern dir ext).weight
  have stars : between.count '*' = 3 := by decide
  have chars : between.length = 6 := rfl
  simp only [List.length_append, List.length_cons, List.count_append, stars, chars] at length weight
  refine ⟨fun part mem => ?_, List.count_eq_zero.mp (by omega), List.count_eq_zero.mp (by omega)⟩
  have none : (ofText (patternFor dir ext)).countP Part.isClass = 0 := by omega
  exact Bool.eq_false_iff.mpr (List.countP_eq_zero.mp none part mem)

/-- **An exact pattern is read literally.** -/
theorem readsLiterally_of_isExact : ReadsLiterally dir ext := by
  obtain ⟨plain, starDir, starExt⟩ := plain_of_isExact slash exact
  have reads := reads_pattern dir ext
  have matched := reads.matches_filled plain
  rw [filled_append, filled_append, filled_of_not_mem starDir, filled_of_not_mem starExt] at matched
  obtain ⟨u, r, -, -, eq⟩ := (matchesFrom_iff_of_isExact slash exact).mp matched
  -- so question marks that are filled in leave the directory and the extension as they are
  obtain ⟨sameDir, rest⟩ := List.append_inj eq (List.length_map _)
  have sameExt : ext.toList.map fillMark = ext.toList := by
    have ends : filled between ++ ext.toList.map fillMark =
        ('/' :: (u ++ (r ++ ['.']))) ++ ext.toList := by
      rw [rest]
      simp
    exact (List.append_inj' ends (List.length_map _)).2
  have markDir : '?' ∉ dir.toList := sameDir ▸ not_mem_map_fillMark dir.toList
  have markExt : '?' ∉ ext.toList := sameExt ▸ not_mem_map_fillMark ext.toList
  refine ⟨List.forall_mem_append.mpr ⟨fun c mem => ?_, fun c mem => ?_⟩,
    fun before after split => reads.not_closes plain (toList_patternFor dir ext ▸ split)⟩
  · exact ⟨ne_of_mem_of_not_mem mem starDir, ne_of_mem_of_not_mem mem markDir⟩
  · exact ⟨ne_of_mem_of_not_mem mem starExt, ne_of_mem_of_not_mem mem markExt⟩

end Exact

/-! ### The extension -/

/-- An extension with dots in front of it. -/
def dotted (dots : Nat) (ext : String) : String := String.ofList (List.replicate dots '.') ++ ext

/-- Dots in front of the extension do not count. -/
lemma bareExtension_dotted (c : Config) (dots : Nat) :
    bareExtension { c with templateExtension := dotted dots c.templateExtension } =
      c.bareExtension := by
  have dot : ∀ d ∈ List.replicate dots '.', decide (d = '.') = true := fun d mem =>
    decide_eq_true (List.eq_of_mem_replicate mem)
  unfold bareExtension dotted
  rw [String.toList_append, String.toList_ofList, List.dropWhile_append_of_pos dot]

/-- What is left of the extension is all of it but the dots in front. -/
lemma exists_dotted (c : Config) : ∃ dots, c.templateExtension = dotted dots c.bareExtension := by
  have dots : c.templateExtension.toList.takeWhile (· = '.') =
      List.replicate (c.templateExtension.toList.takeWhile (· = '.')).length '.' :=
    List.eq_replicate_of_mem fun d mem => by simpa using List.mem_takeWhile_imp mem
  refine ⟨(c.templateExtension.toList.takeWhile (· = '.')).length, ?_⟩
  rw [← String.toList_inj, dotted, bareExtension, String.toList_append, String.toList_ofList,
    String.toList_ofList, ← dots, List.takeWhile_append_dropWhile]

lemma head?_bareExtension (c : Config) : c.bareExtension.toList.head? ≠ some '.' := by
  intro head
  rw [bareExtension, String.toList_ofList] at head
  have notDot := List.head?_dropWhile_not (fun d => decide (d = '.')) c.templateExtension.toList
  rw [head] at notDot
  cases notDot

/-! ### The pattern of a configuration -/

/-- **When the pattern of a configuration matches exactly the paths of its templates.**  The extension
counts without the dots in front of it, however many there are.  Then the pattern is exact if every
character of the directory and of the extension stands for itself and the extension has no slash, and
otherwise only where no path is one of a template, because the extension has a slash, and the pattern
happens to match none. -/
theorem glob?_exact_iff (config : Config) (dir : String) :
    let placed : Config := { config with templateDir := some (.text dir) }
    let ext := config.bareExtension
    (∃ dots, config.templateExtension = dotted dots ext) ∧ ext.toList.head? ≠ some '.' ∧
    placed.glob? = some (patternFor dir ext) ∧
    (∀ dots, glob? { placed with templateExtension := dotted dots config.templateExtension } =
      some (patternFor dir ext)) ∧
    (IsExact dir ext ↔ ReadsLiterally dir ext ∧ '/' ∉ ext.toList ∨
      '/' ∈ ext.toList ∧ ∀ path, matches? (patternFor dir ext) path = false) := by
  intro placed ext
  refine ⟨exists_dotted config, head?_bareExtension config, rfl, fun dots => ?_, ?_⟩
  · have bare := bareExtension_dotted placed dots
    rw [glob?, filePattern, bare]
    rfl
  · by_cases slash : '/' ∈ ext.toList
    · have none path : ¬ IsTemplatePath dir ext path := fun h => (isTemplatePath_iff.mp h).1 slash
      simp [IsExact, none, slash]
    · simp only [slash, not_false_eq_true, and_true, false_and, or_false]
      exact ⟨readsLiterally_of_isExact slash, isExact_of_readsLiterally slash⟩

theorem glob?_exact_templates : ReadsLiterally "templates" "ts.njk" ∧
    glob? ⟨some (.text "templates"), ".ts.njk", false, false⟩ = some "templates/**/*.ts.njk" ∧
    ∀ path, matches? "templates/**/*.ts.njk" path = true ↔
      IsTemplatePath "templates" "ts.njk" path := by
  have literal : ReadsLiterally "templates" "ts.njk" := by
    refine ⟨by simp, fun before after split => ?_⟩
    have none : '[' ∉ (patternFor "templates" "ts.njk").toList := by decide
    rw [split] at none
    simp at none
  have ext : bareExtension ⟨none, ".ts.njk", false, false⟩ = "ts.njk" := by decide
  have pattern : patternFor "templates" "ts.njk" = "templates/**/*.ts.njk" := by decide
  obtain ⟨-, -, glob, -, iff⟩ := glob?_exact_iff ⟨none, ".ts.njk", false, false⟩ "templates"
  rw [ext] at glob iff
  rw [pattern] at glob
  exact ⟨literal, glob, pattern ▸ iff.mpr (.inl ⟨literal, by decide⟩)⟩

/-- A question mark in the extension lets the pattern match files that are no templates, and brackets
in the directory keep it from matching the templates. -/
theorem glob?_spliced :
    (∃ pattern, glob? ⟨some (.text "t"), "n?k", false, false⟩ = some pattern ∧
      matches? pattern "t/a.njk" = true ∧ ¬ IsTemplatePath "t" "n?k" "t/a.njk") ∧
    ∃ pattern, glob? ⟨some (.text "[x]"), "njk", false, false⟩ = some pattern ∧
      matches? pattern "[x]/a.njk" = false ∧ IsTemplatePath "[x]" "njk" "[x]/a.njk" := by
  refine ⟨⟨_, rfl, by decide +kernel, fun h => ?_⟩,
    ⟨_, rfl, by decide +kernel, [], "a", by decide, by decide⟩⟩
  obtain ⟨-, u, r, -, -, eq⟩ := isTemplatePath_iff.mp h
  have mark : '?' ∈ "t".toList ++ '/' :: (u ++ (r ++ '.' :: "n?k".toList)) := by simp
  rw [← eq] at mark
  exact absurd mark (by decide)

end ApiStencil.Config
