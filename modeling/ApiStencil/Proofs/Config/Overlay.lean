import ApiStencil.Proofs.Config.RoundTrip
import ApiStencil.Proofs.Json.Fields
import ApiStencil.Proofs.Lookup
import ApiStencil.Proofs.Yaml.Core
import Mathlib.Data.Finset.Dedup
import Mathlib.Data.Finset.Insert

/-!
# Configurations that say a part

Every field of a configuration may be missing, and then has its default.  A document that holds some of
the fields is an overlay on the default configuration, field by field:

* `overlays_of_once` — from a JSON object, whatever else is in it;
* `takeEntries_of_holds` — from the entries of a YAML mapping;
* `load_overlays` — both, and files in either format that hold some of the fields of a configuration.
-/

namespace ApiStencil

open Json Yaml

namespace Config

/-! ### Fields -/

/-- The fields of a configuration. -/
inductive Field where
  | templateDir
  | templateExtension
  | strictStatusCodes
  | autoescape
deriving DecidableEq

namespace Field

/-- The name of a field. -/
def key : Field → String
  | .templateDir => dirField
  | .templateExtension => extensionField
  | .strictStatusCodes => strictField
  | .autoescape => autoescapeField

/-- What a field holds. -/
def Content : Field → Type
  | .templateDir => Option String
  | .templateExtension => String
  | .strictStatusCodes => Bool
  | .autoescape => Bool

/-- What a member may hold to be accepted as a field. -/
def Accepts : Field → Draft → Prop
  | .templateDir, d => d = .null ∨ ∃ s, d = .str s
  | .templateExtension, d => ∃ s, d = .str s
  | .strictStatusCodes, d => ∃ b, d = .bool b
  | .autoescape, d => ∃ b, d = .bool b

lemma key_injective : Function.Injective key := by
  intro f g
  cases f <;> cases g <;> decide

end Field

/-- Two configurations have the same in a field. -/
def AgreesOn (c c' : Config) : Field → Prop
  | .templateDir => c.templateDir = c'.templateDir
  | .templateExtension => c.templateExtension = c'.templateExtension
  | .strictStatusCodes => c.strictStatusCodes = c'.strictStatusCodes
  | .autoescape => c.autoescape = c'.autoescape

/-- A member tells what a configuration has in a field. -/
def Tells (c : Config) : Field → Draft → Prop
  | .templateDir, d =>
    (d = .null ∧ c.templateDir = none) ∨ ∃ s, d = .str s ∧ c.templateDir = some (.text s)
  | .templateExtension, d => d = .str c.templateExtension
  | .strictStatusCodes, d => d = .bool c.strictStatusCodes
  | .autoescape, d => d = .bool c.autoescape

/-- A configuration has a content in a field. -/
def Has (c : Config) : (f : Field) → f.Content → Prop
  | .templateDir, dir => c.templateDir = Option.map DirectoryPath.text dir
  | .templateExtension, s => c.templateExtension = s
  | .strictStatusCodes, b => c.strictStatusCodes = b
  | .autoescape, b => c.autoescape = b

lemma Has.agreesOn {c c' : Config} {f : Field} {x : f.Content} (h : c.Has f x) (h' : c'.Has f x) :
    c.AgreesOn c' f := by
  cases f <;> exact Eq.trans h (Eq.symm h')

/-- **The fields of a configuration** as they are decoded. -/
def table : shape.FieldTable Field.Content where
  label := Field.key
  names f := [f.key]
  read _
    | .templateDir => Draft.asTextOrNull "path string"
    | .templateExtension => Draft.asText "a string"
    | .strictStatusCodes => Draft.asBool
    | .autoescape => Draft.asBool
  slot
    | .templateDir => Fields.templateDir
    | .templateExtension => Fields.templateExtension
    | .strictStatusCodes => Fields.strictStatusCodes
    | .autoescape => Fields.autoescape
  put
    | .templateDir, s, fields => { fields with templateDir := some s }
    | .templateExtension, s, fields => { fields with templateExtension := some s }
    | .strictStatusCodes, b, fields => { fields with strictStatusCodes := some b }
    | .autoescape, b, fields => { fields with autoescape := some b }
  slot_start f := by cases f <;> rfl
  slot_put f x fields := by cases f <;> rfl
  slot_put_of_ne {f g} ne x fields := by
    cases f <;> cases g <;> try rfl
    all_goals exact absurd rfl ne
  ext {fields fields'} same := by
    obtain ⟨dir, extension, strict, autoescape⟩ := fields
    obtain rfl : dir = fields'.templateDir := same .templateDir
    obtain rfl : extension = fields'.templateExtension := same .templateExtension
    obtain rfl : strict = fields'.strictStatusCodes := same .strictStatusCodes
    obtain rfl : autoescape = fields'.autoescape := same .autoescape
    rfl
  disjoint own own' :=
    Field.key_injective ((List.mem_singleton.mp own).symm.trans (List.mem_singleton.mp own'))
  member_own {f key} own source fields d := by
    obtain rfl := List.mem_singleton.mp own
    cases f <;> rfl
  member_other {key} other source fields d := by
    have ne : ∀ f : Field, key ≠ f.key := fun f => by simpa using other f
    have dir : key ≠ dirField := ne .templateDir
    have extension : key ≠ extensionField := ne .templateExtension
    have strict : key ≠ strictField := ne .strictStatusCodes
    have autoescape : key ≠ autoescapeField := ne .autoescape
    simp only [shape, if_neg dir, if_neg extension, if_neg strict, if_neg autoescape]

section Read

variable (source : Source) {c : Config} {f : Field} {d : Draft} {fields : Fields}

/-- What is read from a member is what it tells. -/
lemma tells_iff : c.Tells f d ↔ ∃ x, table.read source f d = .ok x ∧ c.Has f x := by
  constructor
  · intro tells
    cases f with
    | templateDir =>
      rcases tells with ⟨rfl, absent⟩ | ⟨s, rfl, dir⟩
      · exact ⟨none, rfl, absent⟩
      · exact ⟨some s, rfl, dir⟩
    | _ =>
      cases tells
      exact ⟨_, rfl, rfl⟩
  · rintro ⟨x, reads, has⟩
    cases f with
    | templateDir =>
      rcases Draft.asTextOrNull_eq_ok_iff.mp reads with ⟨rfl, rfl⟩ | ⟨s, rfl, rfl⟩
      · exact .inl ⟨rfl, has⟩
      · exact .inr ⟨s, rfl, has⟩
    | templateExtension =>
      rw [Draft.asText_eq_ok_iff.mp reads]
      exact congrArg Draft.str has.symm
    | strictStatusCodes | autoescape =>
      rw [Draft.asBool_eq_ok_iff.mp reads]
      exact congrArg Draft.bool has.symm

lemma accepts_iff : f.Accepts d ↔ ∃ x, table.read source f d = .ok x := by
  cases f with
  | templateDir => exact Draft.exists_asTextOrNull_iff.symm
  | templateExtension => exact exists_congr fun _ => Draft.asText_eq_ok_iff.symm
  | strictStatusCodes | autoescape => exact exists_congr fun _ => Draft.asBool_eq_ok_iff.symm

/-- A configuration has what was read. -/
lemma has_config {x : f.Content} (h : table.slot f fields = some x) : fields.config.Has f x := by
  cases f with
  | templateDir =>
    exact congrArg (fun dir : Option (Option String) => (dir.getD none).map DirectoryPath.text) h
  | templateExtension => exact congrArg (Option.getD · defaultExtension) h
  | strictStatusCodes | autoescape => exact congrArg (Option.getD · false) h

/-- A configuration has the default where nothing was read. -/
lemma config_agreesOn_default (h : table.slot f fields = none) :
    fields.config.AgreesOn default f := by
  cases f with
  | templateDir =>
    exact congrArg (fun dir : Option (Option String) => (dir.getD none).map DirectoryPath.text) h
  | templateExtension => exact congrArg (Option.getD · defaultExtension) h
  | strictStatusCodes | autoescape => exact congrArg (Option.getD · false) h

end Read

section Tells

variable {c c' : Config} {f : Field} {d : Draft}

/-- A member tells one content. -/
lemma Tells.agreesOn (tells' : c'.Tells f d) (tells : c.Tells f d) : c'.AgreesOn c f := by
  obtain ⟨x, reads, has⟩ := (tells_iff .text).mp tells
  obtain ⟨x', reads', has'⟩ := (tells_iff .text).mp tells'
  obtain rfl : x' = x := Except.ok.inj (reads'.symm.trans reads)
  exact has'.agreesOn has

lemma Tells.accepts (tells : c.Tells f d) : f.Accepts d := by
  obtain ⟨x, reads, -⟩ := (tells_iff .text).mp tells
  exact (accepts_iff _).mpr ⟨x, reads⟩

end Tells

/-! ### JSON objects -/

/-- **An overlay on the default configuration**: there is a configuration exactly if what was found of
each field is accepted, and then it has in each field what was found, or else the default. -/
structure Overlays (found : Field → Option Draft) (r : Decoded Config) : Prop where
  decodes : (∃ c, r = .ok c) ↔ ∀ f d, found f = some d → f.Accepts d
  present : ∀ {c f d}, r = .ok c → found f = some d → c.Tells f d
  absent : ∀ {c f}, r = .ok c → found f = none → c.AgreesOn default f

section Members

variable (source : Source) {members : List (String × Draft)} {c : Config}

/-- Fields can be read one by one. -/
lemma exists_fields (filled : ∀ f : Field, ∃ after,
      Draft.Filled [f.key] (table.read source f) none members after) :
    ∃ fields, ∀ f, Draft.Filled (table.names f) (table.read source f) none members
      (table.slot f fields) := by
  obtain ⟨dir, hdir⟩ := filled .templateDir
  obtain ⟨extension, hextension⟩ := filled .templateExtension
  obtain ⟨strict, hstrict⟩ := filled .strictStatusCodes
  obtain ⟨autoescape, hautoescape⟩ := filled .autoescape
  refine ⟨⟨dir, extension, strict, autoescape⟩, fun f => ?_⟩
  cases f with
  | templateDir => exact hdir
  | templateExtension => exact hextension
  | strictStatusCodes => exact hstrict
  | autoescape => exact hautoescape

/-- A configuration that was decoded has what each member tells, and defaults elsewhere. -/
lemma tells_or_default (once : ∀ f : Field, (contents [f.key] members).length ≤ 1)
    (decodes : shape.decode source (.obj members true) = .ok c) (f : Field) :
    (members.lookup f.key = none ∧ c.AgreesOn default f) ∨
      ∃ d, members.lookup f.key = some d ∧ c.Tells f d := by
  obtain ⟨-, -, fields, filled, made⟩ := table.decode_obj_eq_ok_iff.mp decodes
  obtain rfl : fields.config = c := Except.ok.inj made
  rcases (Draft.filled_iff_lookup (once f)).mp (filled f) with ⟨none, empty⟩ | ⟨d, x, found, reads, own⟩
  · exact .inl ⟨none, config_agreesOn_default empty⟩
  · exact .inr ⟨d, found, (tells_iff source).mpr ⟨x, reads, has_config own⟩⟩

/-- **Objects are overlays**, if no field is given twice. -/
theorem overlays_of_once (once : ∀ f : Field, (contents [f.key] members).length ≤ 1)
    (skips : table.Skips members) :
    Overlays (fun f => members.lookup f.key) (shape.decode source (.obj members true)) := by
  have told : ∀ {c f d}, shape.decode source (.obj members true) = .ok c →
      members.lookup f.key = some d → c.Tells f d := by
    intro c f d decodes found
    rcases tells_or_default source once decodes f with ⟨none, -⟩ | ⟨d', found', tells⟩
    · rw [none] at found
      cases found
    · rwa [Option.some.inj (found.symm.trans found')]
  refine ⟨⟨?_, fun accepted => ?_⟩, told, ?_⟩
  · rintro ⟨c, decodes⟩ f d found
    exact (told decodes found).accepts
  · obtain ⟨fields, filled⟩ := exists_fields source fun f => by
      cases found : members.lookup f.key with
      | none => exact ⟨none, (Draft.filled_iff_lookup (once f)).mpr (.inl ⟨found, rfl⟩)⟩
      | some d =>
        obtain ⟨x, reads⟩ := (accepts_iff source).mp (accepted f d found)
        exact ⟨some x, (Draft.filled_iff_lookup (once f)).mpr (.inr ⟨d, x, found, reads, rfl⟩)⟩
    exact ⟨fields.config, table.decode_obj_eq_ok_iff.mpr ⟨rfl, skips, fields, filled, rfl⟩⟩
  · intro c f decodes none
    rcases tells_or_default source once decodes f with ⟨-, agrees⟩ | ⟨d, found, -⟩
    · exact agrees
    · rw [none] at found
      cases found

end Members

/-! ### Documents that hold some of the fields -/

/-- A node of YAML tells what a configuration has in a field: null or a text for the directory, a scalar
of any kind for the extension, the words of booleans for the others. -/
def NodeTells (c : Config) : Field → Node → Prop
  | .templateDir, node => ∃ style s, node = .scalar none style s ∧
    ((Core.ofScalar none style s = .ok .null ∧ c.templateDir = none) ∨
      (Core.ofScalar none style s ≠ .ok .null ∧ c.templateDir = some (.text s)))
  | .templateExtension, node => ∃ tag style, node = .scalar tag style c.templateExtension
  | .strictStatusCodes, node => ∃ style s, node = .scalar none style s ∧
    Core.ofScalar none style s = .ok (.bool c.strictStatusCodes)
  | .autoescape, node => ∃ style s, node = .scalar none style s ∧
    Core.ofScalar none style s = .ok (.bool c.autoescape)

/-- A member of a JSON object holds a field of a configuration. -/
def HoldsMember (c : Config) (f : Field) (m : String × Draft) : Prop :=
  m.1 = f.key ∧ c.Tells f m.2

/-- An entry of a YAML mapping holds a field of a configuration. -/
def HoldsEntry (c : Config) (f : Field) (entry : Node × Node) : Prop :=
  (∃ tag style, entry.1 = .scalar tag style f.key) ∧ c.NodeTells f entry.2

/-- A JSON text is an object that holds these fields of a configuration, in this order, and nothing
else. -/
def JsonHolds (c : Config) (order : List Field) (text : String) : Prop :=
  ∃ members, Draft.ofText text = (.obj members true, true) ∧
    List.Forall₂ c.HoldsMember order members

/-- A YAML text is a mapping that holds these fields of a configuration, in this order, and nothing else;
where there are none, it may be a blank document, or no document at all. -/
def YamlHolds (c : Config) (order : List Field) (text : String) : Prop :=
  (∃ tag entries, Document.ofText text = ⟨some (.mapping tag entries true), true⟩ ∧
    List.Forall₂ c.HoldsEntry order entries) ∨
  (order = [] ∧ ∃ root ∈ [none, some Node.blank], Document.ofText text = ⟨root, true⟩)

/-- **A document holds just these fields of a configuration**, in the format for its path. -/
def Holds (c : Config) (fields : Finset Field) (path text : String) : Prop :=
  ∃ order : List Field, order.Nodup ∧ order.toFinset = fields ∧
    if isJsonFile path then c.JsonHolds order text else c.YamlHolds order text

/-- A configuration has some fields of another one, and the default in all others. -/
def IsOverlay (c' c : Config) (fields : Finset Field) : Prop :=
  (∀ f ∈ fields, c'.AgreesOn c f) ∧ ∀ f ∉ fields, c'.AgreesOn default f

/-! ### JSON documents -/

section Json

variable {c : Config} {order : List Field} {text : String} {members : List (String × Draft)}

lemma keys_of_holdsMember (holds : List.Forall₂ c.HoldsMember order members) :
    members.map Prod.fst = order.map Field.key := by
  induction holds with
  | nil => rfl
  | cons first _ ih => rw [List.map_cons, List.map_cons, ih, first.1]

/-- What is found in an object that holds some fields. -/
lemma lookup_of_holdsMember (holds : List.Forall₂ c.HoldsMember order members) (f : Field) :
    (f ∉ order ∧ members.lookup f.key = none) ∨
      ∃ d, f ∈ order ∧ members.lookup f.key = some d ∧ c.Tells f d := by
  induction holds with
  | nil => exact .inl ⟨List.not_mem_nil, rfl⟩
  | @cons g m order members first _ ih =>
    obtain ⟨key, d⟩ := m
    obtain ⟨rfl, tells⟩ := first
    by_cases same : f = g
    · subst same
      exact .inr ⟨d, List.mem_cons_self, List.lookup_cons_self, tells⟩
    · have other : (f.key == g.key) = false := beq_false_of_ne fun eq => same (Field.key_injective eq)
      rw [List.lookup_cons, other, List.mem_cons, or_iff_right same]
      exact ih

/-- **JSON documents with some fields.** -/
theorem ofJson_of_holds (distinct : order.Nodup) (holds : c.JsonHolds order text) :
    ∃ c', ofJson text = .ok c' ∧ c'.IsOverlay c order.toFinset := by
  obtain ⟨members, object, fields⟩ := holds
  have once (f : Field) : (contents [f.key] members).length ≤ 1 := by
    refine length_contents_le ?_
    rw [keys_of_holdsMember fields]
    exact distinct.map Field.key_injective
  have skips : table.Skips members := fun _ mem _ => Draft.wellFormed_of_mem_ofText object mem
  have overlays := overlays_of_once .text once skips
  have found := lookup_of_holdsMember fields
  obtain ⟨c', decodes⟩ := overlays.decodes.mpr fun f d eq => by
    rcases found f with ⟨-, none⟩ | ⟨d', -, eq', tells⟩
    · rw [none] at eq
      cases eq
    · obtain rfl := Option.some.inj (eq.symm.trans eq')
      exact tells.accepts
  refine ⟨c', ?_, fun f mem => ?_, fun f other => ?_⟩
  · rw [ofJson, decodeText_of_ofText object, decode, decodes]
  · rcases found f with ⟨other, -⟩ | ⟨d, -, eq, tells⟩
    · exact absurd (List.mem_toFinset.mp mem) other
    · exact (overlays.present decodes eq).agreesOn tells
  · rcases found f with ⟨-, none⟩ | ⟨d, mem, -⟩
    · exact overlays.absent decodes none
    · exact absurd (List.mem_toFinset.mpr mem) other

end Json

/-! ### YAML documents -/

section Yaml

variable {c : Config} {f : Field} {fields : Fields} {node : Node} {order : List Field}
  {entries : List (Node × Node)} {text : String}

lemma boolOf_of_ofScalar {place : String} {style : Style} {s : String} {b : Bool}
    (h : Core.ofScalar none style s = .ok (.bool b)) :
    boolOf place (.scalar none style s) = .ok b := by
  obtain ⟨rfl, word⟩ := Core.bool?_of_ofScalar h
  simp only [boolOf, word]

/-- The text of a scalar without a tag, or nothing for null. -/
lemma textOrNullOf_untagged (place expected : String) (style : Style) (s : String) :
    (Core.ofScalar none style s = .ok .null ∧
      textOrNullOf place expected (.scalar none style s) = .ok none) ∨
    (Core.ofScalar none style s ≠ .ok .null ∧
      textOrNullOf place expected (.scalar none style s) = .ok (some s)) := by
  by_cases plain : style = .plain
  · subst plain
    have meaning : Core.ofScalar none .plain s = .ok (Core.ofPlain s) := rfl
    rw [meaning, ne_eq, Except.ok.injEq, Core.ofPlain_eq_null_iff]
    by_cases null : (s.isEmpty || Core.isNull s) = true
    · exact .inl ⟨null, by simp only [textOrNullOf, if_pos null]⟩
    · exact .inr ⟨null, by simp only [textOrNullOf, if_neg null]⟩
  · have meaning : Core.ofScalar none style s = .ok (.text s) := by
      simp only [Core.ofScalar, if_neg plain]
    refine .inr ⟨fun null => ?_, ?_⟩
    · rw [meaning] at null
      cases null
    · cases style with
      | plain => exact absurd rfl plain
      | _ => rfl

/-- How a field is read from a node. -/
def readNode (node : Node) : (f : Field) → YamlResult f.Content
  | .templateDir => textOrNullOf dirField "path string" node
  | .templateExtension => textOf extensionField "a string" node
  | .strictStatusCodes => boolOf strictField node
  | .autoescape => boolOf autoescapeField node

lemma takeEntry_key (tag : Option String) (style : Style) (f : Field) (node : Node) :
    takeEntry fields (.scalar tag style f.key) node =
      once (table.slot f fields) (readNode node f) fun x => table.put f x fields := by
  cases f <;> rfl

/-- What a node tells is read from it. -/
lemma readNode_of_tells (tells : c.NodeTells f node) : ∃ x, readNode node f = .ok x ∧ c.Has f x := by
  cases f with
  | templateDir =>
    obtain ⟨style, s, rfl, dir⟩ := tells
    rcases textOrNullOf_untagged dirField "path string" style s with ⟨null, reads⟩ | ⟨text, reads⟩
    · exact ⟨none, reads, dir.elim And.right fun other => absurd null other.1⟩
    · exact ⟨some s, reads, dir.elim (fun other => absurd other.1 text) And.right⟩
  | templateExtension =>
    obtain ⟨tag, style, rfl⟩ := tells
    exact ⟨_, rfl, rfl⟩
  | strictStatusCodes | autoescape =>
    obtain ⟨style, s, rfl, word⟩ := tells
    exact ⟨_, boolOf_of_ofScalar word, rfl⟩

/-- **One entry** of a field fills this field. -/
theorem takeEntry_of_tells (tells : c.NodeTells f node) (empty : table.slot f fields = none)
    (tag : Option String) (style : Style) :
    ∃ x, c.Has f x ∧ takeEntry fields (.scalar tag style f.key) node = .ok (table.put f x fields) := by
  obtain ⟨x, reads, has⟩ := readNode_of_tells tells
  refine ⟨x, has, ?_⟩
  rw [takeEntry_key, once, empty, reads]
  rfl

/-- **The entries of some fields** fill these fields and keep the others. -/
theorem takeEntries_of_holds (fields : Fields) (holds : List.Forall₂ c.HoldsEntry order entries)
    (distinct : order.Nodup) (empty : ∀ f ∈ order, table.slot f fields = none) :
    ∃ fields', entries.foldlM (fun fields (key, value) => takeEntry fields key value) fields
        = .ok fields' ∧
      (∀ f ∈ order, ∃ x, c.Has f x ∧ table.slot f fields' = some x) ∧
      ∀ f ∉ order, table.slot f fields' = table.slot f fields := by
  induction holds generalizing fields with
  | nil => exact ⟨fields, rfl, nofun, fun _ _ => rfl⟩
  | @cons g entry order entries first _ ih =>
    obtain ⟨key, value⟩ := entry
    obtain ⟨⟨tag, style, rfl⟩, tells⟩ := first
    obtain ⟨other, distinct⟩ := List.nodup_cons.mp distinct
    obtain ⟨x, has, taken⟩ := takeEntry_of_tells tells (empty g List.mem_cons_self) tag style
    have ne {f : Field} (mem : f ∈ order) : f ≠ g := fun same => other (same ▸ mem)
    obtain ⟨fields', others, filled, kept⟩ := ih (table.put g x fields) distinct fun f mem => by
      rw [table.slot_put_of_ne (ne mem)]
      exact empty f (List.mem_cons_of_mem _ mem)
    refine ⟨fields', ?_, ?_, fun f notMem => ?_⟩
    · rw [List.foldlM_cons]
      dsimp only
      rw [taken]
      exact others
    · refine List.forall_mem_cons.mpr ⟨⟨x, has, ?_⟩, filled⟩
      rw [kept g other, table.slot_put]
    · obtain ⟨neFirst, notMem⟩ := not_or.mp (List.mem_cons.not.mp notMem)
      rw [kept f notMem, table.slot_put_of_ne neFirst]

/-- **YAML documents with some fields.** -/
theorem ofYaml_of_holds (distinct : order.Nodup) (holds : c.YamlHolds order text) :
    ∃ c', ofYaml text = .ok c' ∧ c'.IsOverlay c order.toFinset := by
  rcases holds with ⟨tag, entries, document, held⟩ | ⟨rfl, root, mem, document⟩
  · obtain ⟨fields, taken, filled, kept⟩ := takeEntries_of_holds .none held distinct
      fun f _ => table.slot_start f
    refine ⟨fields.config, ?_, fun f mem => ?_, fun f other => ?_⟩
    · rw [ofYaml, document]
      simp only [ofNode, taken]
      rfl
    · obtain ⟨x, has, own⟩ := filled f (List.mem_toFinset.mp mem)
      exact (has_config own).agreesOn has
    · have keeps := kept f fun mem => other (List.mem_toFinset.mpr mem)
      exact config_agreesOn_default (keeps.trans (table.slot_start f))
  · refine ⟨default, ?_, fun f held => ?_, fun f _ => by cases f <;> rfl⟩
    · rw [ofYaml, document]
      simp only [List.mem_cons, List.not_mem_nil, or_false] at mem
      rcases mem with rfl | rfl <;> rfl
    · cases List.mem_toFinset.mp held

end Yaml

/-! ### A document for each set of fields -/

section Writing

variable {c : Config} {dir : Option String} {f : Field}

/-- A field as JSON, with a text for the directory. -/
def valueOf (c : Config) (dir : Option String) : Field → Value
  | .templateDir => match dir with
    | some s => .str s
    | none => .null
  | .templateExtension => .str c.templateExtension
  | .strictStatusCodes => .bool c.strictStatusCodes
  | .autoescape => .bool c.autoescape

/-- The line of a field in YAML, with a text for the directory. -/
def pairOf (c : Config) (dir : Option String) : Field → Scanner.Pair
  | .templateDir => match dir with
    | some s => textPair dirField s
    | none => wordPair dirField "null"
  | .templateExtension => textPair extensionField c.templateExtension
  | .strictStatusCodes => wordPair strictField (toString c.strictStatusCodes)
  | .autoescape => wordPair autoescapeField (toString c.autoescape)

lemma isFlat_valueOf : (c.valueOf dir f).isFlat := by
  cases f with
  | templateDir => cases dir <;> rfl
  | _ => rfl

lemma tells_valueOf (h : f = .templateDir → c.templateDir = dir.map .text) :
    c.Tells f (.ofValue (c.valueOf dir f)) := by
  cases f with
  | templateDir =>
    cases dir with
    | none => exact .inl ⟨rfl, h rfl⟩
    | some s => exact .inr ⟨s, rfl, h rfl⟩
  | _ => rfl

lemma sound_pairOf : (c.pairOf dir f).Sound := by
  refine sound_pairs c dir _ ?_
  cases f with
  | templateDir => cases dir <;> exact List.mem_cons_self
  | _ => simp [pairOf, pairs]

/-- A text that is written in YAML does not mean null. -/
lemma ofScalar_styleOf_ne_null (s : String) : Core.ofScalar none (styleOf s) s ≠ .ok .null := by
  rcases textOrNullOf_untagged dirField "path string" (styleOf s) s with ⟨-, reads⟩ | ⟨text, -⟩
  · rw [textOrNullOf_written] at reads
    cases reads
  · exact text

lemma ofScalar_toString (b : Bool) : Core.ofScalar none .plain (toString b) = .ok (.bool b) := by
  cases b <;> rfl

lemma holdsEntry_pairOf (h : f = .templateDir → c.templateDir = dir.map .text) :
    c.HoldsEntry f (c.pairOf dir f).nodes := by
  cases f with
  | templateDir =>
    cases dir with
    | none => exact ⟨⟨none, .plain, rfl⟩, .plain, "null", rfl, .inl ⟨rfl, h rfl⟩⟩
    | some s =>
      refine ⟨⟨none, .plain, rfl⟩, styleOf s, s, ?_, .inr ⟨ofScalar_styleOf_ne_null s, h rfl⟩⟩
      simp only [pairOf, textPair, Scanner.Pair.nodes, String.ofList_toList]
  | templateExtension =>
    refine ⟨⟨none, .plain, rfl⟩, none, styleOf c.templateExtension, ?_⟩
    simp only [pairOf, textPair, Scanner.Pair.nodes, String.ofList_toList]
  | strictStatusCodes | autoescape =>
    refine ⟨⟨none, .plain, rfl⟩, .plain, _, ?_, ofScalar_toString _⟩
    simp only [pairOf, wordPair, Scanner.Pair.nodes, String.ofList_toList]

/-- Some fields as an object of JSON. -/
lemma exists_jsonHolds {order : List Field}
    (h : .templateDir ∈ order → c.templateDir = dir.map .text) : ∃ text, c.JsonHolds order text := by
  have flat : ∀ m ∈ order.map fun f => (f.key, c.valueOf dir f), m.2.isFlat :=
    List.forall_mem_map.mpr fun _ _ => isFlat_valueOf
  refine ⟨_, _, Draft.ofText_write flat, ?_⟩
  rw [Draft.ofMembers_eq_map, List.map_map, List.forall₂_map_right_iff, List.forall₂_same]
  exact fun f mem => ⟨rfl, tells_valueOf fun same => h (same ▸ mem)⟩

/-- Some fields as lines of YAML. -/
lemma exists_yamlHolds {order : List Field}
    (h : .templateDir ∈ order → c.templateDir = dir.map .text) : ∃ text, c.YamlHolds order text := by
  by_cases none : order = []
  · exact ⟨"", .inr ⟨none, _, List.mem_cons_self, rfl⟩⟩
  have sound : ∀ p ∈ order.map (c.pairOf dir), p.Sound :=
    List.forall_mem_map.mpr fun _ _ => sound_pairOf
  have document := Document.ofText_pairs (List.map_eq_nil_iff.not.mpr none) sound
    (String.toList_ofList (l := (order.map (c.pairOf dir)).flatMap Scanner.Pair.written))
  refine ⟨_, .inl ⟨_, _, document, ?_⟩⟩
  rw [List.map_map, List.forall₂_map_right_iff, List.forall₂_same]
  exact fun f mem => holdsEntry_pairOf fun same => h (same ▸ mem)

lemma hasTextDir_of_or (h : c.templateDir = none ∨ ∃ s, c.templateDir = some (.text s)) :
    c.HasTextDir := by
  intro dir eq
  rcases h with absent | ⟨s, text⟩
  · rw [absent] at eq
    cases eq
  · exact ⟨s, Option.some.inj (eq.symm.trans text)⟩

/-- Where a member holds the directory, it is a text. -/
lemma hasTextDir_of_holdsMember {m : String × Draft} (holds : c.HoldsMember f m)
    (same : f = .templateDir) : c.HasTextDir := by
  subst same
  obtain ⟨-, ⟨-, absent⟩ | ⟨s, -, text⟩⟩ := holds
  · exact hasTextDir_of_or (.inl absent)
  · exact hasTextDir_of_or (.inr ⟨s, text⟩)

/-- Where an entry holds the directory, it is a text. -/
lemma hasTextDir_of_holdsEntry {entry : Node × Node} (holds : c.HoldsEntry f entry)
    (same : f = .templateDir) : c.HasTextDir := by
  subst same
  obtain ⟨-, style, s, -, ⟨-, absent⟩ | ⟨-, text⟩⟩ := holds
  · exact hasTextDir_of_or (.inl absent)
  · exact hasTextDir_of_or (.inr ⟨s, text⟩)

/-- **Which fields a document can hold**: all but a directory whose path is no text. -/
theorem exists_holds_iff {fields : Finset Field} {path : String} :
    (∃ text, c.Holds fields path text) ↔ (.templateDir ∈ fields → c.HasTextDir) := by
  constructor
  · rintro ⟨text, order, -, rfl, holds⟩ mem
    rw [List.mem_toFinset] at mem
    split at holds
    · obtain ⟨members, -, held⟩ := holds
      exact forall_mem_of_forall₂ held hasTextDir_of_holdsMember _ mem rfl
    · rcases holds with ⟨tag, entries, -, held⟩ | ⟨rfl, -⟩
      · exact forall_mem_of_forall₂ held hasTextDir_of_holdsEntry _ mem rfl
      · cases mem
  · intro readable
    obtain ⟨dir, h⟩ : ∃ dir : Option String,
        .templateDir ∈ fields.toList → c.templateDir = dir.map .text := by
      by_cases mem : .templateDir ∈ fields
      · obtain ⟨dir, eq⟩ := (readable mem).exists_dir
        exact ⟨dir, fun _ => eq⟩
      · exact ⟨none, fun held => absurd (Finset.mem_toList.mp held) mem⟩
    by_cases json : isJsonFile path = true
    · obtain ⟨text, holds⟩ := exists_jsonHolds h
      exact ⟨text, fields.toList, fields.nodup_toList, fields.toList_toFinset, by rwa [if_pos json]⟩
    · obtain ⟨text, holds⟩ := exists_yamlHolds h
      exact ⟨text, fields.toList, fields.nodup_toList, fields.toList_toFinset, by rwa [if_neg json]⟩

end Writing

/-! ### Files -/

/-- A document that holds some fields is read as their overlay. -/
theorem ofText_of_holds {c : Config} {fields : Finset Field} {path text : String}
    (holds : c.Holds fields path text) : ∃ c', ofText path text = .ok c' ∧ c'.IsOverlay c fields := by
  obtain ⟨order, distinct, rfl, holds⟩ := holds
  by_cases json : isJsonFile path = true
  · rw [if_pos json] at holds
    rw [ofText, if_pos json]
    exact ofJson_of_holds distinct holds
  · rw [if_neg json] at holds
    rw [ofText, if_neg json]
    exact ofYaml_of_holds distinct holds

/-- **Partial configurations are overlays on the default.**  A JSON object is one whatever else is in it,
as a value and as a text; no text decodes that has a field twice; the order and unknown members make no
difference.  A file that holds some fields of a configuration, in either format, gives the configuration
that has these fields and the defaults; and there is such a document for all fields but a directory whose
path is no text. -/
theorem load_overlays :
    (∀ members : List (String × Value), (members.map Prod.fst).Nodup →
      Overlays (fun f => (members.lookup f.key).map .ofValue) (decodeValue decode (.obj members))) ∧
    (∀ text members, Draft.ofText text = (.obj members true, true) →
      ((∀ f : Field, (contents [f.key] members).length ≤ 1) →
        Overlays (fun f => members.lookup f.key) (decodeText decode text)) ∧
      ∀ f : Field, 2 ≤ (contents [f.key] members).length → ∃ e, decodeText decode text = .error e) ∧
    BlindToSpelling decode (fun f : Field => [f.key]) ∧
    ∀ (c : Config) (fields : Finset Field) (path : String),
      ((∃ text, c.Holds fields path text) ↔ (.templateDir ∈ fields → c.HasTextDir)) ∧
      ∀ (fs : FileSystem) (text : String), c.Holds fields path text →
        fs.read path = .ok text.toUTF8 → ∃ c', load fs path = .ok c' ∧ c'.IsOverlay c fields := by
  refine ⟨fun members distinct => ?_, fun text members object => ⟨fun once => ?_, fun f two => ?_⟩,
    table.blind, fun c fields path => ⟨exists_holds_iff, fun fs text holds reads => ?_⟩⟩
  · have once (f : Field) : (contents [f.key] (Draft.ofMembers members)).length ≤ 1 := by
      rw [Draft.ofMembers_eq_map, contents_map, List.length_map]
      exact length_contents_le distinct
    have overlays := overlays_of_once .value once fun _ mem _ =>
      Draft.wellFormed_of_mem_ofMembers mem
    have found : (fun f : Field => (Draft.ofMembers members).lookup f.key) =
        fun f => (members.lookup f.key).map .ofValue := by
      rw [Draft.ofMembers_eq_map]
      exact funext fun f => lookup_map Draft.ofValue
    rwa [found] at overlays
  · rw [decodeText_of_ofText object]
    exact overlays_of_once .text once fun _ mem _ => Draft.wellFormed_of_mem_ofText object mem
  · rw [decodeText_of_ofText object]
    exact exists_error_of_ne_ok fun c => table.decode_ne_ok_of_two two
  · obtain ⟨c', decodes, overlay⟩ := ofText_of_holds holds
    exact ⟨c', by simp only [load, reads, ofFile_toUTF8, decodes], overlay⟩

/-- A configuration of which the strict mode is held alone. -/
def strictConfig : Config := ⟨some (.text "t"), "ts", true, true⟩

/-- The theorem for an object with an unknown member, and for a document with the strict mode alone. -/
theorem load_overlays_strict :
    Overlays (fun f => ([("more", Value.null), ("autoescape", .bool true)].lookup f.key).map .ofValue)
      (decodeValue decode (.obj [("more", .null), ("autoescape", .bool true)])) ∧
    Overlays (fun f => [("autoescape", Draft.bool true)].lookup f.key)
      (decodeText decode "\x7b\"autoescape\":true\x7d") ∧
    (∃ e, decodeText decode "\x7b\"autoescape\":true,\"autoescape\":true\x7d" = .error e) ∧
    ∃ c', load ⟨.directory [("c", .file "strict_status_codes: true\n".toUTF8)], []⟩ "c" = .ok c' ∧
      c'.IsOverlay strictConfig {.strictStatusCodes} := by
  have object : Draft.ofText "\x7b\"autoescape\":true\x7d" =
      (.obj [("autoescape", .bool true)] true, true) := by
    have written : (Value.obj [("autoescape", .bool true)]).write = "\x7b\"autoescape\":true\x7d" := by
      decide +kernel
    rw [← written]
    exact Draft.ofText_write (by decide)
  have twice : Draft.ofText "\x7b\"autoescape\":true,\"autoescape\":true\x7d" =
      (.obj [("autoescape", .bool true), ("autoescape", .bool true)] true, true) := by
    have written : (Value.obj [("autoescape", .bool true), ("autoescape", .bool true)]).write =
        "\x7b\"autoescape\":true,\"autoescape\":true\x7d" := by
      decide +kernel
    rw [← written]
    exact Draft.ofText_write (by decide)
  have document : Document.ofText "strict_status_codes: true\n" =
      ⟨some (.mapping none [(strictConfig.pairOf none .strictStatusCodes).nodes] true), true⟩ :=
    Document.ofText_pairs (List.cons_ne_nil _ _) (List.forall_mem_singleton.mpr sound_pairOf)
      (by decide +kernel)
  have holds : strictConfig.Holds {.strictStatusCodes} "c" "strict_status_codes: true\n" := by
    refine ⟨[.strictStatusCodes], by decide, rfl, ?_⟩
    rw [if_neg (by decide +kernel)]
    exact .inl ⟨none, _, document, .cons (holdsEntry_pairOf nofun) .nil⟩
  have reads : FileSystem.read ⟨.directory [("c", .file "strict_status_codes: true\n".toUTF8)], []⟩ "c"
      = .ok "strict_status_codes: true\n".toUTF8 := by
    have parts : FilePath.components "c" = ["c"] := by decide +kernel
    have relative : FilePath.isAbsolute "c" = false := by decide +kernel
    have file : FilePath.isForDirectory "c" = false := by decide +kernel
    have resolves (root : FileTree) : FileSystem.resolve ⟨root, []⟩ "c" = .ok ["c"] := by
      simp [FileSystem.resolve, FileSystem.start, parts, relative, FileSystem.follow]
    rw [FileSystem.read, FileSystem.get?, resolves, file]
    rfl
  refine ⟨load_overlays.1 _ (by decide), (load_overlays.2.1 _ _ object).1 ?_,
    (load_overlays.2.1 _ _ twice).2 .autoescape (by decide),
    (load_overlays.2.2.2 _ _ _).2 _ _ holds reads⟩
  intro f
  cases f <;> decide

end Config

end ApiStencil
