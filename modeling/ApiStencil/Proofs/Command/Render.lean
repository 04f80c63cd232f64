import ApiStencil.Command
import ApiStencil.Proofs.Files.Directories
import ApiStencil.Proofs.Result

/-!
# The render command

A render on a disk in memory has two halves: what reads and renders, which changes nothing, and what
delivers the content, which comes last.

* `Rendering` — all stages of a render that goes well, each with what it gives;
* `tells_prepare`, `prepared_eq_ok_iff` — the first half;
* `run_deliver` — the second half;
* `render_atomic` — both together.
-/

namespace ApiStencil.Command

open Json

variable {files : FileSystem} {request : RenderRequest}

/-! ### Stages -/

/-- The configuration of a render: what the file holds, or the default if no file is given. -/
def Loads (files : FileSystem) (path : Option String) (config : Config) : Prop :=
  match path with
  | none => config = .default
  | some path => Config.load files path = .ok config

/-- The text of the file at a path. -/
def ReadsText (files : FileSystem) (path text : String) : Prop :=
  ∃ bytes, files.read path = .ok bytes ∧ Text.ofBytes? bytes = some text

/-- A configuration that is strict if it was or if the flag says so. -/
def withFlag (config : Config) (strict : Bool) : Config :=
  { config with strictStatusCodes := config.strictStatusCodes || strict }

/-- **A render that goes well**, stage by stage: the configuration is loaded, the template is read,
the context is read and parsed, the template is parsed as the only one of an environment, and is
rendered there. -/
structure Rendering (files : FileSystem) (request : RenderRequest) where
  config : Config
  source : String
  text : String
  context : Value
  environment : Environment
  output : Output
  loads : Loads files request.config config
  readsSource : ReadsText files request.template source
  readsContext : ReadsText files request.context text
  parses : contextOfFile request.context text = .ok context
  made : (Environment.ofTemplates [(templateName request.template, source)]
    (withFlag config request.strict)).1 = .ok environment
  renders : (environment.render (templateName request.template) context .empty).1 = .ok output

/-! ### Reading and rendering -/

/-- The result of everything that comes before the first visible effect. -/
def prepared (files : FileSystem) (request : RenderRequest) : Except String String := do
  let config ← configOf request.config (match request.config with
    | some path => files.read path
    | none => .error .notFound)
  let source ← textOfFile s!"Failed to read template {request.template}"
    (files.read request.template)
  let text ← textOfFile s!"Failed to read context {request.context}" (files.read request.context)
  let context ← contextOfFile request.context text
  contentOf request config source context

/-- An action tells something about a world, or fails, and leaves the world as it is. -/
def Tells {α : Type} (world : World) (a : ExceptT String (StateM World) α) (r : Except String α) :
    Prop :=
  a.run.run world = (r, world)

section Tells

variable {α β : Type} {world : World}

lemma tells_liftM (r : Except String α) : Tells world (liftM r) r := rfl

lemma tells_read (path : String) :
    Tells world (liftM (Disk.read path : StateM World _)) (.ok (world.files.read path)) := rfl

lemma Tells.bind {a : ExceptT String (StateM World) α} {r : Except String α}
    {f : α → ExceptT String (StateM World) β} {g : α → Except String β} (h : Tells world a r)
    (hf : ∀ x, Tells world (f x) (g x)) : Tells world (a >>= f) (r >>= g) := by
  unfold Tells at h ⊢
  rw [ExceptT.run_bind, StateT.run_bind, h]
  cases r with
  | error e => rfl
  | ok x => exact hf x

end Tells

/-- **Nothing changes before the content is there.** -/
theorem tells_prepare (request : RenderRequest) (world : World) :
    Tells world (prepare request) (prepared world.files request) := by
  obtain ⟨template, context, path?, strict, output⟩ := request
  -- all stages but the first one, which reads a file only if one is given
  have others : ∀ content, Tells world _ _ := fun content =>
    (tells_liftM (configOf path? content)).bind fun config =>
      (tells_read template).bind fun content =>
      (tells_liftM (textOfFile s!"Failed to read template {template}" content)).bind fun source =>
      (tells_read context).bind fun content =>
      (tells_liftM (textOfFile s!"Failed to read context {context}" content)).bind fun text =>
      (tells_liftM (contextOfFile context text)).bind fun value =>
      tells_liftM (contentOf ⟨template, context, path?, strict, output⟩ config source value)
  cases path? with
  | none => exact others _
  | some path => exact (tells_read path).bind others

lemma configOf_eq_ok_iff {path? : Option String} {config : Config} :
    configOf path? (match path? with
      | some path => files.read path
      | none => .error .notFound) = .ok config ↔ Loads files path? config := by
  cases path? with
  | none => simp [configOf, Loads, eq_comm]
  | some path =>
    simp only [configOf, Loads, Config.load]
    cases files.read path with
    | error fault => simp
    | ok bytes => cases found : Config.ofFile path bytes <;> simp [found]

lemma textOfFile_eq_ok_iff {message path text : String} :
    textOfFile message (files.read path) = .ok text ↔ ReadsText files path text := by
  unfold textOfFile ReadsText
  cases files.read path with
  | error fault => simp
  | ok bytes => cases found : Text.ofBytes? bytes <;> simp [found]

lemma contentOf_eq_ok_iff {config : Config} {source content : String} {context : Value} :
    contentOf request config source context = .ok content ↔
      ∃ environment, (Environment.ofTemplates [(templateName request.template, source)]
          (withFlag config request.strict)).1 = .ok environment ∧
        ∃ output, (environment.render (templateName request.template) context .empty).1 = .ok output ∧
          output.content = content := by
  unfold contentOf withFlag
  dsimp only
  cases (Environment.ofTemplates [(templateName request.template, source)]
      { config with strictStatusCodes := config.strictStatusCodes || request.strict }).1 with
  | error e => simp
  | ok environment =>
    cases rendered : (environment.render (templateName request.template) context .empty).1 <;>
      simp [rendered]

/-- **Content is there exactly if all stages go well**, and then it is that of the last one. -/
theorem prepared_eq_ok_iff {content : String} :
    prepared files request = .ok content ↔
      ∃ rendering : Rendering files request, rendering.output.content = content := by
  simp only [prepared, bind_eq_ok_iff, configOf_eq_ok_iff, textOfFile_eq_ok_iff,
    contentOf_eq_ok_iff]
  constructor
  · rintro ⟨config, loads, source, readsSource, text, readsContext, context, parses, environment,
      made, output, renders, rfl⟩
    exact ⟨⟨config, source, text, context, environment, output, loads, readsSource, readsContext,
      parses, made, renders⟩, rfl⟩
  · rintro ⟨r, rfl⟩
    exact ⟨r.config, r.loads, r.source, r.readsSource, r.text, r.readsContext, r.context, r.parses,
      r.environment, r.made, r.output, r.renders, rfl⟩

/-! ### Delivering -/

lemma run_changeFiles (change : FileSystem → Except FileFault FileSystem) (world : World) :
    (changeFiles change).run world =
      match change world.files with
      | .ok files => (.ok (), { world with files })
      | .error fault => (.error fault, world) := by
  have parts : (changeFiles change).run world =
      (match change world.files with
        | .ok files => do
          set { world with files }
          pure (.ok ())
        | .error fault => pure (.error fault) : StateM World (Except FileFault Unit)).run world :=
    rfl
  rw [parts]
  cases change world.files <;> rfl

/-- Writes a file and ends the command. -/
def writeAndEnd (path : String) (content : ByteArray) : StateM World Outcome := do
  match ← Disk.write path content with
  | .ok () => pure .success
  | .error _ => pure (.failed s!"Failed to write {path}")

lemma run_writeAndEnd (path : String) (content : ByteArray) (world : World) :
    (writeAndEnd path content).run world =
      match world.files.write path content with
      | .ok files => (.success, { world with files })
      | .error _ => (.failed s!"Failed to write {path}", world) := by
  have write : (Disk.write path content : StateM World _).run world = _ :=
    run_changeFiles (fun files => files.write path content) world
  rw [writeAndEnd, StateT.run_bind, write]
  cases world.files.write path content <;> rfl

/-- **What delivering to a file does**: the directories are made, then the file is written, and
nothing is printed. -/
theorem run_deliver {path : String} (out : request.output = some path) (content : String)
    (world : World) :
    (deliver request content : StateM World Outcome).run world =
      match world.files.makeParents path with
      | .error fault => (.failed fault.message, world)
      | .ok made =>
        match made.write path content.toUTF8 with
        | .ok files => (.success, { world with files })
        | .error _ => (.failed s!"Failed to write {path}", { world with files := made }) := by
  unfold deliver FileSystem.makeParents
  rw [out]
  dsimp only
  cases FilePath.parent? path with
  | none => exact run_writeAndEnd path content.toUTF8 world
  | some dir =>
    have make : (Disk.makeDirectories dir : StateM World _).run world = _ :=
      run_changeFiles (fun files => files.makeDirectories dir) world
    dsimp only
    rw [StateT.run_bind, make]
    cases world.files.makeDirectories dir with
    | error fault => rfl
    | ok made => exact run_writeAndEnd path content.toUTF8 { world with files := made }

lemma run_deliver_printed (out : request.output = none) (content : String) (world : World) :
    (deliver request content : StateM World Outcome).run world =
      (.success, { world with printed := world.printed ++ content }) := by
  unfold deliver
  rw [out]
  rfl

lemma run_deliver_ok {path : String} (out : request.output = some path) {content : String}
    {world : World} {files' : FileSystem}
    (stored : world.files.store path content.toUTF8 = .ok files') :
    (deliver request content : StateM World Outcome).run world =
      (.success, { world with files := files' }) := by
  obtain ⟨made, parents, written⟩ := FileSystem.store_eq_ok_iff.mp stored
  rw [run_deliver out, parents]
  dsimp only
  rw [written]

lemma run_deliver_error {path : String} (out : request.output = some path) {content : String}
    {world : World} {fault : FileFault}
    (unstored : world.files.store path content.toUTF8 = .error fault) :
    ∃ message files', (deliver request content : StateM World Outcome).run world =
      (.failed message, { world with files := files' }) := by
  rw [run_deliver out]
  cases parents : world.files.makeParents path with
  | error fault => exact ⟨_, world.files, rfl⟩
  | ok made =>
    rw [FileSystem.store, parents] at unstored
    have unwritten : made.write path content.toUTF8 = .error fault := unstored
    dsimp only
    rw [unwritten]
    exact ⟨_, made, rfl⟩

/-! ### The whole command -/

lemma run_render (request : RenderRequest) (world : World) :
    (render request : StateM World Outcome).run world =
      match prepared world.files request with
      | .error message => (.failed message, world)
      | .ok content => (deliver request content : StateM World Outcome).run world := by
  have told : (prepare request : ExceptT String (StateM World) String).run.run world = _ :=
    tells_prepare request world
  rw [render, StateT.run_bind, told]
  cases prepared world.files request <;> rfl

/-- A flag that is set and a configuration that is strict prepare the same. -/
lemma prepared_strict {config : Config} {path : String} (loads : Loads files request.config config)
    (strict : Loads files (some path) (withFlag config true)) :
    prepared files { request with strict := true } =
      prepared files { request with config := some path, strict := false } := by
  have loads := configOf_eq_ok_iff.mpr loads
  have strict := configOf_eq_ok_iff.mpr strict
  have content : contentOf { request with strict := true } config =
      contentOf { request with config := some path, strict := false } (withFlag config true) := by
    funext source context
    simp [contentOf, withFlag]
  dsimp only at strict
  simp only [prepared, loads, strict, content, bind, Except.bind]

/-- **A render is faithful and atomic.**  Where one of its stages fails, the command fails, prints
nothing and changes nothing.  Where all go well, the content is that of the library: it is printed
and nothing else happens, or it is put into its file with the missing directories, if that can be
written, and nothing is printed.  The flag for strictness and the field of the configuration stand
for each other. -/
theorem render_atomic (request : RenderRequest) (world : World) :
    (IsEmpty (Rendering world.files request) →
      ∃ message, (render request : StateM World Outcome).run world = (.failed message, world)) ∧
    (∀ rendering : Rendering world.files request,
      (request.output = none → (render request : StateM World Outcome).run world =
        (.success, { world with printed := world.printed ++ rendering.output.content })) ∧
      ∀ path, request.output = some path →
        (∀ files', world.files.store path rendering.output.content.toUTF8 = .ok files' →
          (render request : StateM World Outcome).run world =
              (.success, { world with files := files' }) ∧
            world.files.Placed files' path rendering.output.content.toUTF8) ∧
        ∀ fault, world.files.store path rendering.output.content.toUTF8 = .error fault →
          ∃ message files', (render request : StateM World Outcome).run world =
            (.failed message, { world with files := files' })) ∧
    ∀ config path, Loads world.files request.config config →
      Loads world.files (some path) (withFlag config true) →
        (render { request with strict := true } : StateM World Outcome).run world =
          (render { request with config := some path, strict := false }
            : StateM World Outcome).run world := by
  refine ⟨fun none => ?_, fun rendering => ?_, fun config path loads strict => ?_⟩
  · rw [run_render]
    cases result : prepared world.files request with
    | error message => exact ⟨message, rfl⟩
    | ok content =>
      obtain ⟨rendering, -⟩ := prepared_eq_ok_iff.mp result
      exact none.elim rendering
  · have content : prepared world.files request = .ok rendering.output.content :=
      prepared_eq_ok_iff.mpr ⟨rendering, rfl⟩
    have run := run_render request world
    rw [content] at run
    dsimp only at run
    rw [run]
    refine ⟨fun out => run_deliver_printed out _ world, fun path out => ⟨fun files' stored => ?_,
      fun fault => run_deliver_error out⟩⟩
    exact ⟨run_deliver_ok out stored, FileSystem.placed_of_store stored⟩
  · rw [run_render, run_render, prepared_strict loads strict]
    rfl

/-- A template that prints a member of its context, and a context with that member. -/
def pageFiles : FileSystem :=
  ⟨.directory [("page.njk", .file "\x7b\x7b x \x7d\x7d".toUTF8),
    ("context.json", .file "\x7b\"x\": 1\x7d".toUTF8)], []⟩

/-- The theorem for a page that is put into a directory that is not there. -/
theorem render_atomic_page :
    ∃ files', (render ⟨"page.njk", "context.json", none, true, some "out/page.txt"⟩
        : StateM World Outcome).run ⟨pageFiles, ""⟩ = (.success, ⟨files', ""⟩) ∧
      pageFiles.Placed files' "out/page.txt" "1".toUTF8 := by
  have result : prepared pageFiles ⟨"page.njk", "context.json", none, true, some "out/page.txt"⟩ =
      .ok "1" := by decide +kernel
  have stored : (pageFiles.store "out/page.txt" "1".toUTF8).isOk = true := by decide +kernel
  obtain ⟨rendering, content⟩ := prepared_eq_ok_iff.mp result
  have delivers := ((render_atomic _ ⟨pageFiles, ""⟩).2.1 rendering).2 _ rfl
  rw [content] at delivers
  cases made : pageFiles.store "out/page.txt" "1".toUTF8 with
  | error fault =>
    rw [made] at stored
    cases stored
  | ok files' => exact ⟨files', delivers.1 files' made⟩

end ApiStencil.Command
