import ApiStencil.Proofs.Environment.Installation
import ApiStencil.Proofs.Environment.Naming
import ApiStencil.Proofs.Result
import ApiStencil.Proofs.Template.Parts

/-!
# What is escaped

Whether output is escaped depends on the configuration only.  A source that embeds no template does
the same under all names (`renderOnly_eq`).  Its content is put together from parts
(`rendering_eq`), and without escaping every insertion among them is the value as it is.  The
accumulator entries and the filter for response types give texts that are never escaped
(`Entry.verbatim_asFilter`, `Filters.verbatim_responseType`), so these texts are inserted as they
are in every configuration.
-/

namespace ApiStencil

open Json Template ApiStencil.Action

/-! ### Texts that are never escaped -/

namespace Entry

variable (entry : Entry) (i : Handle)

lemma givesText_apply (input : Value) : ((entry.on i).apply input).GivesText := by
  intro l v l' gave
  rcases BoundEntry.perform_apply_cases entry i input l with ⟨e, fails⟩ | ⟨keys, -, works⟩
  · rw [fails] at gave
    cases gave
  · rw [works] at gave
    cases gave
    exact ⟨_, rfl⟩

/-- **The text of an entry** is never escaped where it is a filter. -/
theorem verbatim_asFilter : (entry.on i).asFilter.Verbatim :=
  ⟨rfl, fun v _ => entry.givesText_apply i v⟩

/-- **The text of an entry** is never escaped where it is a function. -/
theorem verbatim_asFunction : (entry.on i).asFunction.Verbatim :=
  ⟨rfl, fun _ => entry.givesText_apply i _⟩

lemma not_isMark_name : isMark entry.name = false := by
  obtain ⟨kind, action⟩ := entry
  cases kind <;> cases action <;> decide

end Entry

/-- **The wrapper type of a response** is never escaped. -/
theorem Filters.verbatim_responseType (strict : Bool) : (responseType strict).Verbatim where
  safe := rfl
  text v args l value l' gave := by
    unfold responseType at gave
    dsimp only at gave
    split at gave
    · cases gave
    · obtain ⟨-, between, -, made⟩ := perform_bind_eq_ok_iff.mp gave
      split at made
      · split at made
        · cases made
          exact ⟨_, rfl⟩
        · cases made
      · cases made
        exact ⟨_, rfl⟩

namespace FilterTable

/-! ### The tools of a render -/

lemma find?_filters_accumulators (i : Handle) (entry : Entry) :
    (accumulators i).filters.find? entry.name = some (entry.on i).asFilter := by
  obtain ⟨kind, action⟩ := entry
  cases kind <;> cases action <;> rfl

lemma find?_functions_accumulators (i : Handle) (entry : Entry) :
    (accumulators i).functions.find? entry.name = some (entry.on i).asFunction := by
  obtain ⟨kind, action⟩ := entry
  cases kind <;> cases action <;> rfl

lemma find?_responseType_accumulators (i : Handle) :
    (accumulators i).filters.find? Filters.responseTypeName = none := rfl

lemma find?_responseType_stateless (strict : Bool) :
    (stateless strict).filters.find? Filters.responseTypeName =
      some (Filters.responseType strict) := by
  rw [stateless, withFilter, Catalog.find?_insert, if_pos rfl]

end FilterTable

namespace Environment

variable (engine : Engine) (config : Config) (i : Handle)

lemma find?_asFilter (entry : Entry) :
    ((ofEngine engine config).1.bound i).tools.filters.find? entry.name =
      some (entry.on i).asFilter :=
  Catalog.find?_extend.trans (by rw [FilterTable.find?_filters_accumulators, Option.some_or])

lemma find?_asFunction (entry : Entry) :
    ((ofEngine engine config).1.bound i).tools.functions.find? entry.name =
      some (entry.on i).asFunction :=
  Catalog.find?_extend.trans (by rw [FilterTable.find?_functions_accumulators, Option.some_or])

/-- No entry takes the place of the filter for response types. -/
lemma find?_responseType :
    ((ofEngine engine config).1.bound i).tools.filters.find? Filters.responseTypeName =
      some (Filters.responseType config.strictStatusCodes) :=
  Catalog.find?_extend.trans (by
    rw [FilterTable.find?_responseType_accumulators, Option.none_or]
    exact Catalog.find?_extend.trans
      (by rw [FilterTable.find?_responseType_stateless, Option.some_or]))

/-! ### One source under all names -/

/-- What a source gives as the only template under a name, and the scopes after it. -/
def renderOnly (config : Config) (name source : String) (context : Value) (i : Handle)
    (scopes : Scopes) : Option Output × Scopes :=
  match (ofTemplates [(name, source)] config).1 with
  | .error _ => (none, scopes)
  | .ok environment =>
    let (result, ledger) := environment.renderIn name context i scopes
    (result.toOption, ledger.scopes)

variable {i} in
lemma toOption_renderIn {environment environment' : Environment} {name name' : String}
    {context : Value} (scopes : Scopes)
    (similar : Similar _ (environment.rendering i name context)
      (environment'.rendering i name' context)) :
    (environment.renderIn name context i scopes).1.toOption =
        (environment'.renderIn name' context i scopes).1.toOption ∧
      (environment.renderIn name context i scopes).2.scopes =
        (environment'.renderIn name' context i scopes).2.scopes := by
  obtain ⟨same, after⟩ := similar ⟨scopes, []⟩
  have held : (environment.renderIn name context i scopes).2.scopes =
      (environment'.renderIn name' context i scopes).2.scopes := by
    rw [scopes_renderIn, scopes_renderIn, after]
  have own : (environment.renderIn name context i scopes).2.scope i =
      (environment'.renderIn name' context i scopes).2.scope i := congrArg (Scopes.get · i) held
  refine ⟨?_, held⟩
  ext output
  rw [toOption_eq_some_iff, toOption_eq_some_iff, renderIn_eq_ok_iff, renderIn_eq_ok_iff, own,
    ← toOption_eq_some_iff, same, toOption_eq_some_iff]

lemma ofEngine_single (name : String) (t : Template) :
    (ofEngine (Engine.bare.withTemplates (.ofList [(name, t)])) config).1 =
      (ofEngine Engine.bare config).1.withTemplate name t := rfl

/-- **A source that embeds no template does the same under all names.** -/
theorem renderOnly_eq {source : String}
    (alone : ∀ t, Template.ofSource? source = some t → t.embeds = []) (context : Value)
    (scopes : Scopes) (name name' : String) :
    renderOnly config name source context i scopes =
      renderOnly config name' source context i scopes := by
  unfold renderOnly
  rw [ofTemplates_single, ofTemplates_single]
  cases read : Template.ofSource? source with
  | none => rfl
  | some t =>
    have plain : Environment.Plain (ofEngine Engine.bare config).1 :=
      ⟨_, config, Engine.plain_bare, rfl⟩
    -- nothing is embedded: no template by a bare engine, which has none, and none by the source
    have unmentioned : ∀ other, other ∈ (ofEngine Engine.bare config).1.embeds ∨ other ∈ t.embeds →
        other ≠ name ∧ other ≠ name' := by
      rintro other (mentioned | mentioned)
      · cases mentioned
      · rw [alone t read] at mentioned
        cases mentioned
    obtain ⟨same, after⟩ :=
      toOption_renderIn scopes (similar_rendering plain i t unmentioned context)
    dsimp only
    rw [ofEngine_single, ofEngine_single]
    exact Prod.ext same after

/-! ### Parts -/

variable {config}

/-- The parts of a template with the accumulators of a scope. -/
def partsIn (environment : Environment) (i : Handle) (escaping : Bool) (template : String)
    (context : Value) : Action (List (Part (environment.bound i).tools escaping)) := do
  let vars ← liftM (contextOf context)
  (environment.bound i).parts escaping vars template

/-- **The text of a render** is that of its parts. -/
theorem rendering_eq (environment : Environment) {escaping : Bool} {template : String}
    (escapes : (environment.bound i).escapes template = escaping) (context : Value) :
    environment.rendering i template context =
      textOf <$> environment.partsIn i escaping template context := by
  rw [rendering, partsIn, map_bind]
  exact bind_congr fun vars => Engine.render_eq _ _ vars template escapes

/-- A render that succeeds has parts, and they give its content. -/
lemma exists_parts {environment : Environment} {escaping : Bool} {template : String}
    (escapes : (environment.bound i).escapes template = escaping) {context : Value}
    {scopes : Scopes} {output : Output}
    (ok : (environment.renderIn template context i scopes).1 = .ok output) :
    ∃ parts l, (environment.partsIn i escaping template context).perform ⟨scopes, []⟩ =
        (.ok parts, l) ∧ textOf parts = output.content := by
  obtain ⟨rendered, -⟩ := renderIn_eq_ok_iff.mp ok
  rw [rendering_eq i environment escapes, ← bind_pure_comp, perform_bind] at rendered
  rcases performed : (environment.partsIn i escaping template context).perform ⟨scopes, []⟩ with
    ⟨e | parts, l⟩
  · rw [performed] at rendered
    cases rendered
  · rw [performed] at rendered
    exact ⟨parts, l, rfl, Except.ok.inj rendered⟩

/-- **Escaping depends on the configuration only.**  A source that embeds no template gives the same
under all names and leaves the scopes the same.  Its content is put together from parts; what is
inserted in a body among them, the whole content included, stands in the text of the body, and
without escaping it is the value as it is.  And with escaping or without, an insertion that ends
with an accumulator entry or with the filter for response types, or that calls an entry, inserts the
text that was given there.

This is about the templates of this library.  A macro, whose text can be kept and changed before it is
inserted, is none of their parts. -/
theorem escaped_by_config (config : Config) {source : String}
    (alone : ∀ t, Template.ofSource? source = some t → t.embeds = []) (context : Value)
    (i : Handle) (scopes : Scopes) :
    (∀ name name', renderOnly config name source context i scopes =
      renderOnly config name' source context i scopes) ∧
    ∀ name environment, (ofTemplates [(name, source)] config).1 = .ok environment →
      (∀ output, (environment.renderIn name context i scopes).1 = .ok output →
        ∃ parts l, (environment.partsIn i config.autoescape name context).perform ⟨scopes, []⟩ =
            (.ok parts, l) ∧
          textOf parts = output.content ∧
          ∀ body, Body parts body → ∀ insertion, .inserted insertion ∈ body →
            insertion.text.toList <:+: (textOf body).toList ∧
              (config.autoescape = false → insertion.text = insertion.value.shown)) ∧
      ∀ insertion : Insertion (environment.bound i).tools config.autoescape,
        (∀ base pipes args,
          (∀ entry : Entry,
            insertion.expression = .mk false base (pipes ++ [.mk entry.name args]) →
              insertion.EndsWith (.mk false base pipes) args (entry.on i).asFilter) ∧
          (insertion.expression = .mk false base (pipes ++ [.mk Filters.responseTypeName args]) →
            insertion.EndsWith (.mk false base pipes) args
              (Filters.responseType config.strictStatusCodes))) ∧
        ∀ (entry : Entry) args,
          insertion.expression = .mk false (.function (.mk entry.name args)) [] →
            insertion.Calls args (entry.on i).asFunction := by
  refine ⟨renderOnly_eq config i alone context scopes, fun name environment made => ?_⟩
  rw [ofTemplates_single] at made
  cases read : Template.ofSource? source with
  | none =>
    rw [read] at made
    cases made
  | some t =>
    rw [read] at made
    cases made
    refine ⟨fun output ok => ?_, fun insertion => ⟨fun base pipes args => ⟨fun entry ends => ?_,
      fun ends => ?_⟩, fun entry args called => ?_⟩⟩
    · obtain ⟨parts, l, performed, content⟩ := exists_parts i (escapes_bound _ config i name) ok
      exact ⟨parts, l, performed, content,
        fun body _ insertion mem => ⟨infix_textOf mem, insertion.text_unescaped⟩⟩
    · exact Insertion.endsWith ends entry.not_isMark_name (find?_asFilter _ config i entry)
        (entry.verbatim_asFilter i)
    · exact Insertion.endsWith ends (by decide) (find?_responseType _ config i)
        (Filters.verbatim_responseType _)
    · exact Insertion.calls called (find?_asFunction _ config i entry)
        (entry.verbatim_asFunction i)

/-! ### A page that is escaped -/

/-- A source that prints a name, adds it as an import, and lists the imports. -/
def listing : String :=
  "\x7b\x7b x \x7d\x7d\x7b\x7b x | addImport \x7d\x7d \x7b\x7b getImports() \x7d\x7d"

/-- The configuration that escapes. -/
def escapingConfig : Config := { Config.default with autoescape := true }

/-- Under every name the name is escaped and the list is not. -/
theorem escaped_by_config_listing :
    (∀ t, Template.ofSource? listing = some t → t.embeds = []) ∧
    ∀ name, (renderOnly escapingConfig name listing (.obj [("x", .str "<a>")]) .first .empty).1 =
      some ⟨"&lt;a&gt; <a>", ["<a>"], []⟩ := by
  have alone : ∀ t, Template.ofSource? listing = some t → t.embeds = [] := by
    have embeds : ((Template.ofSource? listing).map Template.embeds) = some [] := by decide +kernel
    intro t read
    rw [read] at embeds
    exact Option.some.inj embeds
  refine ⟨alone, fun name => ?_⟩
  rw [(escaped_by_config escapingConfig alone _ _ _).1 name "page.html"]
  decide +kernel

/-- What is inserted need not stand in the content: a filter changes the text of its section, and a
negation gives its own value in the place of that of an entry. -/
theorem inserted_changed :
    Config.default.autoescape = false ∧
    (renderOnly .default "t" "\x7b% filter upper %\x7d\x7b\x7b x \x7d\x7d\x7b% endfilter %\x7d"
        (.obj [("x", .str "a")]) .first .empty).1 = some ⟨"A", [], []⟩ ∧
      ¬ "a".toList <:+: "A".toList ∧
    (renderOnly .default "t" "\x7b\x7b not x | addImport \x7d\x7d"
        (.obj [("x", .str "a")]) .first .empty).1 = some ⟨"true", ["a"], []⟩ ∧
      ((((⟨.imports, .add⟩ : Entry).on .first).apply (.str "a")).perform ⟨.empty, []⟩).1 =
        .ok (.str "") := by
  refine ⟨rfl, ?_, ?_, ?_, rfl⟩ <;> decide +kernel

end Environment

end ApiStencil
