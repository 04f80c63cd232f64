import ApiStencil.Config.Text
import ApiStencil.Proofs.Files.Writing
import ApiStencil.Proofs.Json.Reading
import ApiStencil.Proofs.Yaml.Writing

/-!
# Configurations in files

What is written to a file is read back as the same configuration, in either format.

* `ofJson_jsonOf`, `ofYaml_yamlOf` — the two formats;
* `load_save` — a file at any path that can be written to; a directory whose path is no text is not
  written at all.
-/

namespace ApiStencil.Config

open Json Yaml

/-! ### JSON -/

lemma ofText_jsonOf (c : Config) (dir : Option String) :
    Draft.ofText ((c.jsonOf dir).pretty "") = (.ofValue (c.jsonOf dir), true) := by
  apply Draft.ofText_pretty
  cases dir <;> simp [Value.isFlat]

/-- **JSON is read back.** -/
theorem ofJson_jsonOf {c : Config} {dir : Option String}
    (h : c.templateDir = dir.map .text) : ofJson ((c.jsonOf dir).pretty "") = .ok c := by
  obtain ⟨templateDir, templateExtension, strictStatusCodes, autoescape⟩ := c
  cases h
  rw [ofJson, decodeText, ofText_jsonOf]
  cases dir <;> rfl

/-! ### YAML -/

open Scanner (Pair IsKey ReadsAs)

/-- The line of a field with a text. -/
def textPair (field : String) (s : String) : Pair :=
  ⟨field.toList, (writeText s).tail, styleOf s, s.toList⟩

/-- The line of a field with a word. -/
def wordPair (field : String) (word : String) : Pair :=
  ⟨field.toList, word.toList ++ ['\n'], .plain, word.toList⟩

/-- The lines of a configuration. -/
def pairs (c : Config) (dir : Option String) : List Pair :=
  [match dir with
    | some s => textPair dirField s
    | none => wordPair dirField "null",
   textPair extensionField c.templateExtension,
   wordPair strictField (toString c.strictStatusCodes),
   wordPair autoescapeField (toString c.autoescape)]

lemma sound_textPair {field : String} (h : IsKey field.toList) (s : String) :
    (textPair field s).Sound := by
  obtain ⟨body, hbody, hreads, hprintable⟩ := writeText_readsAs s
  refine ⟨h, ?_, ?_⟩
  · simpa [textPair, hbody] using hreads
  · simpa [textPair, hbody] using hprintable

lemma sound_wordPair {field : String} (h : IsKey field.toList) {word : String}
    (hword : word ∈ ["null", "true", "false"]) : (wordPair field word).Sound := by
  have hfits : fitsPlain word.toList = true ∧ word.toList ≠ [] := by
    simp only [List.mem_cons, List.not_mem_nil, or_false] at hword
    rcases hword with rfl | rfl | rfl <;> decide +kernel
  obtain ⟨hplainly, hstart⟩ := plainly_of_fits hfits.1 hfits.2
  exact ⟨h, Scanner.readsAs_plain hplainly hstart hfits.2, hplainly.printable.append (by decide)⟩

lemma isKey_fields : IsKey dirField.toList ∧ IsKey extensionField.toList ∧
    IsKey strictField.toList ∧ IsKey autoescapeField.toList := by
  have hkey {field : String} (hne : field.toList ≠ []) (hchars : field.toList.all Scanner.inKey)
      (hshort : field.toList.length ≤ 1024) : IsKey field.toList :=
    ⟨hne, List.all_eq_true.mp hchars, hshort⟩
  refine ⟨hkey ?_ ?_ ?_, hkey ?_ ?_ ?_, hkey ?_ ?_ ?_, hkey ?_ ?_ ?_⟩ <;> decide +kernel

lemma sound_pairs (c : Config) (dir : Option String) : ∀ p ∈ c.pairs dir, p.Sound := by
  have hword (b : Bool) : toString b ∈ ["null", "true", "false"] := by cases b <;> decide
  obtain ⟨hdir, hextension, hstrict, hautoescape⟩ := isKey_fields
  simp only [pairs, List.forall_mem_cons]
  refine ⟨?_, sound_textPair hextension _, sound_wordPair hstrict (hword _),
    sound_wordPair hautoescape (hword _), List.forall_mem_nil _⟩
  cases dir with
  | none => exact sound_wordPair hdir (by decide)
  | some s => exact sound_textPair hdir s

lemma toList_yamlOf (c : Config) (dir : Option String) :
    (c.yamlOf dir).toList = (c.pairs dir).flatMap Pair.written := by
  have htail (s : String) : writeText s = ' ' :: (writeText s).tail := by
    obtain ⟨body, hbody, -⟩ := writeText_readsAs s
    rw [hbody]
    rfl
  unfold yamlOf
  rw [String.toList_ofList, htail c.templateExtension]
  cases dir with
  | none => simp [pairs, textPair, wordPair, Pair.written]
  | some s =>
    simp only
    rw [htail s]
    simp [pairs, textPair, wordPair, Pair.written]

/-- A text that is written plain is neither empty nor null to the reader. -/
lemma textOrNullOf_written (place expected s : String) :
    textOrNullOf place expected (.scalar none (styleOf s) s) = .ok (some s) := by
  rcases styleOf_cases s with ⟨hstyle, -⟩ | hstyle | ⟨hstyle, hclear, -⟩ | ⟨hstyle, -⟩
  · rw [hstyle]; rfl
  · rw [hstyle]; rfl
  · have hplain : ¬ (s.isEmpty || Core.isNull s) = true := by
      intro hnull
      simp [isAmbiguous, Core.ofPlain, hnull] at hclear
    simp only [textOrNullOf, hstyle, if_neg hplain]
  · rw [hstyle]; rfl

/-- The pairs of a configuration give its fields one by one. -/
lemma ofNode_pairs (dir : Option String) {value : Node}
    (hvalue : textOrNullOf dirField "path string" value = .ok dir) (style : Style)
    (templateExtension : String) (strictStatusCodes autoescape : Bool) :
    ofNode (.mapping none [(.scalar none .plain dirField, value),
        (.scalar none .plain extensionField, .scalar none style templateExtension),
        (.scalar none .plain strictField, .scalar none .plain (toString strictStatusCodes)),
        (.scalar none .plain autoescapeField, .scalar none .plain (toString autoescape))] true)
      = .ok ⟨dir.map .text, templateExtension, strictStatusCodes, autoescape⟩ := by
  have hdir : takeEntry .none (.scalar none .plain dirField) value
      = .ok ⟨some dir, none, none, none⟩ := by
    simp only [takeEntry, if_true, once, hvalue]
    rfl
  have hextension : takeEntry ⟨some dir, none, none, none⟩ (.scalar none .plain extensionField)
      (.scalar none style templateExtension)
        = .ok ⟨some dir, some templateExtension, none, none⟩ := rfl
  have hstrict : takeEntry ⟨some dir, some templateExtension, none, none⟩
      (.scalar none .plain strictField) (.scalar none .plain (toString strictStatusCodes))
        = .ok ⟨some dir, some templateExtension, some strictStatusCodes, none⟩ := by
    cases strictStatusCodes <;> rfl
  have hautoescape : takeEntry ⟨some dir, some templateExtension, some strictStatusCodes, none⟩
      (.scalar none .plain autoescapeField) (.scalar none .plain (toString autoescape))
        = .ok ⟨some dir, some templateExtension, some strictStatusCodes, some autoescape⟩ := by
    cases autoescape <;> rfl
  simp only [ofNode, List.foldlM_cons, List.foldlM_nil, bind, Except.bind, hdir, hextension,
    hstrict, hautoescape]
  rfl

/-- **YAML is read back.** -/
theorem ofYaml_yamlOf {c : Config} {dir : Option String}
    (h : c.templateDir = dir.map .text) : ofYaml (c.yamlOf dir) = .ok c := by
  have hdocument := Document.ofText_pairs (by simp [pairs]) (sound_pairs c dir)
    (toList_yamlOf c dir)
  have hnode : ofNode (.mapping none ((c.pairs dir).map Pair.nodes) true) = .ok c := by
    obtain ⟨templateDir, templateExtension, strictStatusCodes, autoescape⟩ := c
    cases h
    cases dir with
    | none =>
      simp only [pairs, textPair, wordPair, Pair.nodes, List.map_cons, List.map_nil,
        String.ofList_toList]
      exact ofNode_pairs none rfl _ _ _ _
    | some s =>
      simp only [pairs, textPair, wordPair, Pair.nodes, List.map_cons, List.map_nil,
        String.ofList_toList]
      exact ofNode_pairs (some s) (textOrNullOf_written _ _ s) _ _ _ _
  rw [ofYaml, hdocument]
  simp only [hnode]
  rfl

/-! ### Files -/

/-- Whether a configuration can be written: its directory is absent or a text. -/
def HasTextDir (c : Config) : Prop := ∀ dir, c.templateDir = some dir → ∃ s, dir = .text s

/-- The text for the file at a path. -/
def textFor (path : String) (c : Config) (dir : Option String) : String :=
  if isJsonFile path then (c.jsonOf dir).pretty "" else c.yamlOf dir

lemma toFile_of_text {path : String} {c : Config} {dir : Option String}
    (h : c.templateDir = dir.map .text) : c.toFile path = .ok (c.textFor path dir) := by
  cases dir <;> simp [toFile, h, textFor, DirectoryPath.text?]

lemma toFile_of_raw {c : Config} (h : ¬ c.HasTextDir) (path : String) :
    ∃ e, c.toFile path = .error e := by
  cases hdir : c.templateDir with
  | none => exact absurd (fun dir hd => by rw [hdir] at hd; cases hd) h
  | some dir =>
    cases dir with
    | text s =>
      refine absurd (fun dir hd => ⟨s, ?_⟩) h
      rw [hdir] at hd
      exact (Option.some.inj hd).symm
    | raw bytes hbytes =>
      refine ⟨if isJsonFile path then .json .pathNotText else .yaml .pathNotText, ?_⟩
      simp only [toFile, hdir, DirectoryPath.text?]

lemma HasTextDir.exists_dir {c : Config} (h : c.HasTextDir) :
    ∃ dir : Option String, c.templateDir = dir.map .text := by
  cases hdir : c.templateDir with
  | none => exact ⟨none, rfl⟩
  | some dir =>
    obtain ⟨s, rfl⟩ := h dir hdir
    exact ⟨some s, rfl⟩

/-- The configuration of a text in the format for a path. -/
def ofText (path text : String) : Except Error Config :=
  if isJsonFile path then ofJson text else ofYaml text

lemma ofFile_toUTF8 (path text : String) : ofFile path text.toUTF8 = ofText path text := by
  have hvalid : text.toUTF8.IsValidUTF8 := text.isValidUTF8
  have hbytes : Text.ofBytes? text.toUTF8 = some text := by
    rw [Text.ofBytes?, String.fromUTF8?, dif_pos hvalid]
    rfl
  rw [ofFile, hbytes, ofText]

/-- What is written for a path is read back in the format for that path. -/
theorem ofText_textFor (path : String) {c : Config} {dir : Option String}
    (h : c.templateDir = dir.map .text) : ofText path (c.textFor path dir) = .ok c := by
  unfold ofText textFor
  split
  · exact ofJson_jsonOf h
  · exact ofYaml_yamlOf h

/-- **Files give configurations back**: a configuration whose directory is absent or a text is
written to every file that can be written, in the format that the extension asks for, and is read
from there as it was; any other one is not written, and no file changes. -/
theorem load_save (fs : FileSystem) (path : String) (c : Config) :
    (c.HasTextDir → fs.Writable path → ∃ fs' text, c.save fs path = (.ok (), fs') ∧
      fs'.read path = .ok text.toUTF8 ∧ ofText path text = .ok c ∧ load fs' path = .ok c) ∧
    (¬ c.HasTextDir → ∃ e, c.save fs path = (.error e, fs)) := by
  constructor
  · intro htext hwritable
    obtain ⟨dir, hdir⟩ := htext.exists_dir
    obtain ⟨fs', hwrite⟩ := FileSystem.write_any hwritable (c.textFor path dir).toUTF8
    have hread := FileSystem.read_write hwrite
    have hback := ofText_textFor path hdir
    refine ⟨fs', c.textFor path dir, ?_, hread, hback, ?_⟩
    · simp only [save, toFile_of_text hdir, hwrite]
    · simp only [load, hread, ofFile_toUTF8, hback]
  · intro hraw
    obtain ⟨e, he⟩ := toFile_of_raw hraw path
    exact ⟨e, by simp only [save, he]⟩

/-- The theorem for a text that looks like null and for a path that is no text. -/
theorem load_save_null :
    (∃ fs' text,
      save ⟨.empty, []⟩ "c" ⟨some (.text "null"), " n\n\n", true, false⟩ = (.ok (), fs') ∧
      fs'.read "c" = .ok text.toUTF8 ∧
      ofText "c" text = .ok ⟨some (.text "null"), " n\n\n", true, false⟩ ∧
      load fs' "c" = .ok ⟨some (.text "null"), " n\n\n", true, false⟩) ∧
    ∃ e, save ⟨.empty, []⟩ "c" ⟨some (.raw ⟨#[0xFF]⟩ (by decide +kernel)), "njk", false, false⟩
      = (.error e, ⟨.empty, []⟩) := by
  have hwritable : FileSystem.Writable ⟨.empty, []⟩ "c" := by
    have hparts : FilePath.components "c" = ["c"] := by decide +kernel
    have hrelative : FilePath.isAbsolute "c" = false := by decide +kernel
    have hfile : FilePath.isForDirectory "c" = false := by decide +kernel
    refine ⟨.empty, ⟨.directory [("c", .file .empty)], []⟩, ?_⟩
    rw [FileSystem.write_ok_iff]
    refine ⟨["c"], _, ?_, hfile, rfl, rfl⟩
    simp [FileSystem.resolve, FileSystem.start, hparts, hrelative, FileSystem.follow]
  refine ⟨(load_save _ "c" _).1 ?_ hwritable, (load_save _ "c" _).2 ?_⟩
  · rintro dir ⟨⟩
    exact ⟨"null", rfl⟩
  · intro h
    obtain ⟨s, hs⟩ := h _ rfl
    cases hs

end ApiStencil.Config
