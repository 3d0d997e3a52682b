import Tagweave.Config.Load
import Mathlib.Data.String.Basic

namespace Tagweave

/-!
# Loading the render context

`Config.loadContext` reads the context file, when there is one, and lays the inline values
over its top-level keys. What it ends with depends on the answer of one read only, so it is
stated against any file system, given as the answer to each read (`Script.answerReads`).

* `Json.Fields.get?_insert` and `Json.Fields.pairwise_insert`: setting one key of a map.
  A lookup of that key finds the new value and any other lookup is unchanged, and keys that
  ascend still ascend.
* `Config.overlay_object` is the run lemma over the inline values. Each key gets its last
  value there, whole, and every other key of the file keeps its own; the result is again a
  map.
* `Config.loadContext_merge` is the statement for the whole load. A file that cannot be read
  is an I/O error and one that is not JSON a JSON error, whatever the inline values are.
  Otherwise the file's value comes back as it is when there are no inline values. With inline
  values it is merged over when it is an object, and a validation error when it is not.
-/

namespace Script

/-- What a script ends with when the file system answers each read of a path `p` with
`files p`; nothing when it asks anything other than reads. -/
def answerReads {α : Type} (files : String → Except IoError ByteArray) : Script α → Option α
  | .done a => some a
  | .loadBytes path next => answerReads files (next (files path))
  | .pathExists _ _ | .saveText _ _ _ | .workingDir _ => none

@[simp] theorem answerReads_done {α : Type} (files : String → Except IoError ByteArray) (a : α) :
    (Script.done a).answerReads files = some a := rfl

@[simp] theorem answerReads_pure {α : Type} (files : String → Except IoError ByteArray) (a : α) :
    (pure a : Script α).answerReads files = some a := rfl

@[simp] theorem answerReads_loadBytes {α : Type} (files : String → Except IoError ByteArray) (path : String)
    (next : Except IoError ByteArray → Script α) :
    (Script.loadBytes path next).answerReads files = (next (files path)).answerReads files := rfl

/-- A script that reads and then goes on answers with what the rest answers after the reads. -/
theorem answerReads_bind {α β : Type} (files : String → Except IoError ByteArray) (s : Script α)
    (f : α → Script β) :
    (s.bind f).answerReads files = (s.answerReads files).bind fun a => (f a).answerReads files := by
  induction s with
  | done a => rfl
  | loadBytes path next ih => exact ih (files path)
  | pathExists _ _ _ => rfl
  | saveText _ _ _ _ => rfl
  | workingDir _ _ => rfl

end Script

namespace Json.Fields

/-- After setting `key`, a lookup of `key` finds the new value and any other lookup is
unchanged; in place or inserted, the new pair comes before any other with its key. -/
theorem get?_insert (key k : String) (value : Json) (fields : Fields) :
    (Fields.insert key value fields).get? k = if k = key then some value else fields.get? k := by
  induction fields with
  | nil => simp [Fields.insert, Fields.get?, eq_comm]
  | cons e rest ih =>
    obtain ⟨k', v'⟩ := e
    unfold Fields.insert
    split
    · simp [Fields.get?, eq_comm]
    · split
      · next h => subst h; by_cases hk : key = k <;> simp [Fields.get?, hk, eq_comm]
      · next hlt hne =>
        by_cases hk : k' = k
        · subst hk; simp [Fields.get?, Ne.symm hne]
        · simp [Fields.get?, hk, ih]

/-- A member after setting `key` is the new pair or an old member. -/
theorem mem_insert {key : String} {value : Json} {fields : Fields} {e : String × Json}
    (h : e ∈ Fields.insert key value fields) : e.1 = key ∨ e ∈ fields := by
  induction fields with
  | nil => simp_all [Fields.insert]
  | cons f rest ih =>
    obtain ⟨k', v'⟩ := f
    unfold Fields.insert at h
    split at h
    · rcases List.mem_cons.mp h with rfl | h
      · exact .inl rfl
      · exact .inr h
    · split at h
      · rcases List.mem_cons.mp h with rfl | h
        · exact .inl rfl
        · exact .inr (List.mem_cons_of_mem _ h)
      · rcases List.mem_cons.mp h with rfl | h
        · exact .inr List.mem_cons_self
        · rcases ih h with h | h
          · exact .inl h
          · exact .inr (List.mem_cons_of_mem _ h)

/-- Setting a key in a map whose keys ascend leaves them ascending. -/
theorem pairwise_insert (key : String) (value : Json) {fields : Fields}
    (h : fields.Pairwise (·.1 < ·.1)) : (Fields.insert key value fields).Pairwise (·.1 < ·.1) := by
  induction fields with
  | nil => simp [Fields.insert]
  | cons f rest ih =>
    obtain ⟨k', v'⟩ := f
    rw [List.pairwise_cons] at h
    unfold Fields.insert
    split
    · next hlt =>
      refine List.Pairwise.cons (fun e he => ?_) (List.Pairwise.cons h.1 h.2)
      rcases List.mem_cons.mp he with rfl | he
      · exact hlt
      · exact lt_trans hlt (h.1 e he)
    · split
      · next heq => subst heq; exact List.Pairwise.cons h.1 h.2
      · next hnlt hne =>
        have hgt : k' < key := by
          rcases lt_trichotomy k' key with hlt | heq | hgt
          · exact hlt
          · exact absurd heq.symm hne
          · exact absurd hgt hnlt
        refine List.Pairwise.cons (fun e he => ?_) (ih h.2)
        rcases mem_insert he with he | he
        · rw [he]; exact hgt
        · exact h.1 e he

end Json.Fields

namespace Config

/-- With no inline values the context is what it was, of whatever kind. -/
theorem overlay_nil (context : Json) : overlay [] context = .ok context := rfl

/-- Inline values laid over an object: each of their keys holds its last value there, whole,
every other key of the object keeps its value, and ascending keys stay ascending. The
induction runs over the inline values, one setting at a time. -/
theorem overlay_object {values : Json.Fields} (hvalues : values ≠ []) (fields : Json.Fields) :
    ∃ merged, overlay values (.object fields) = .ok (.object merged) ∧
      (∀ k, Json.Fields.get? k merged = (values.reverse.lookup k).or (Json.Fields.get? k fields)) ∧
      (fields.Pairwise (·.1 < ·.1) → merged.Pairwise (·.1 < ·.1)) := by
  unfold overlay
  rw [if_neg (by simpa using hvalues)]
  refine ⟨_, rfl, ?_, ?_⟩
  · clear hvalues
    induction values generalizing fields with
    | nil => simp
    | cons e rest ih =>
      intro k
      obtain ⟨key, value⟩ := e
      rw [List.foldl_cons, ih, List.reverse_cons, List.lookup_append, Option.or_assoc]
      simp only [Json.Fields.get?_insert, List.lookup_cons, List.lookup_nil]
      by_cases hk : k = key
      · simp [hk]
      · have hbeq : (k == key) = false := by simpa using hk
        simp [hk, hbeq]
  · clear hvalues
    induction values generalizing fields with
    | nil => exact id
    | cons e rest ih =>
      intro hsorted
      obtain ⟨key, value⟩ := e
      rw [List.foldl_cons]
      exact ih _ (Json.Fields.pairwise_insert key value hsorted)

/-- Inline values need an object to lay over. -/
theorem overlay_not_object {values : Json.Fields} (hvalues : values ≠ []) {context : Json}
    (h : context.isObject = false) :
    overlay values context =
      .error (.validation "context.values requires the context file to hold a JSON object") := by
  unfold overlay
  rw [if_neg (by simpa using hvalues)]
  cases context <;> simp_all [Json.isObject]

/-! ### One read -/

section Load

variable (c : Config) (files : String → Except IoError ByteArray)

/-- Reading a file as text asks one read, so it always answers. -/
theorem readText_answers (path : String) :
    ∃ r, (Script.readText path).answerReads files = some r := by
  unfold Script.readText
  simp only [Script.answerReads_loadBytes]
  split
  · exact ⟨_, rfl⟩
  · split <;> exact ⟨_, rfl⟩

/-- With no context file the inline values lay over the empty object. -/
theorem loadContext_no_file (h : c.contextFile = none) :
    c.loadContext.answerReads files = some (overlay c.context.values (.object [])) := by
  unfold loadContext
  rw [h]
  rfl

/-- A context file that cannot be read as text is an I/O error. -/
theorem loadContext_unreadable {path : String} {e : IoError} (h : c.contextFile = some path)
    (hread : (Script.readText path).answerReads files = some (.error e)) :
    c.loadContext.answerReads files = some (.error (.io e)) := by
  unfold loadContext
  rw [h]
  simp only [bind, Script.answerReads_bind, hread]
  rfl

/-- A context file that is not JSON is a JSON error naming the file. -/
theorem loadContext_invalid {path text : String} {err : JsonError} (h : c.contextFile = some path)
    (hread : (Script.readText path).answerReads files = some (.ok text))
    (hparse : Json.parse text = .error err) :
    c.loadContext.answerReads files = some (.error (.json path err.message)) := by
  unfold loadContext
  rw [h]
  simp only [bind, Script.answerReads_bind, hread, Option.bind_some, hparse]
  rfl

/-- The inline values lay over the value of a context file that is JSON. -/
theorem loadContext_file {path text : String} {context : Json} (h : c.contextFile = some path)
    (hread : (Script.readText path).answerReads files = some (.ok text))
    (hparse : Json.parse text = .ok context) :
    c.loadContext.answerReads files = some (overlay c.context.values context) := by
  unfold loadContext
  rw [h]
  simp only [bind, Script.answerReads_bind, hread, Option.bind_some, hparse]
  rfl

/-- The context file of `c` holds `context`, as the file system answers, or `c` names no
context file and `context` is the empty object. -/
def ContextHolds (context : Json) : Prop :=
  (c.contextFile = none ∧ context = .object []) ∨
    ∃ path text, c.contextFile = some path ∧
      (Script.readText path).answerReads files = some (.ok text) ∧ Json.parse text = .ok context

/-- What the inline values are laid over is what the context file holds. -/
theorem loadContext_of_holds {context : Json} (h : c.ContextHolds files context) :
    c.loadContext.answerReads files = some (overlay c.context.values context) := by
  rcases h with ⟨hfile, rfl⟩ | ⟨path, text, hfile, hread, hparse⟩
  · exact loadContext_no_file c files hfile
  · exact loadContext_file c files hfile hread hparse

/-- **Loading the context.** Whatever the file system answers, loading ends with one result
`r`. A context file that cannot be read as text gives an I/O error and one that is not JSON
a JSON error, whatever the inline values. Otherwise let `context` be what the file holds (the
empty object with no file). With no inline values `r` is `context` itself, of whatever kind.
With inline values and an object, `r` is an object in which each inline key holds its
inline value (the last one given), whole, and every other key its value in the file; it is
again a map when the file's object was. With inline values and anything but an object, `r`
is a validation error. -/
theorem loadContext_merge :
    ∃ r, c.loadContext.answerReads files = some r ∧
      (∀ path e, c.contextFile = some path →
        (Script.readText path).answerReads files = some (.error e) → r = .error (.io e)) ∧
      (∀ path text err, c.contextFile = some path →
        (Script.readText path).answerReads files = some (.ok text) →
        Json.parse text = .error err → r = .error (.json path err.message)) ∧
      ∀ context, c.ContextHolds files context →
        (c.context.values = [] → r = .ok context) ∧
        (c.context.values ≠ [] → ∀ fields, context = .object fields →
          ∃ merged, r = .ok (.object merged) ∧
            (∀ k, Json.Fields.get? k merged =
              (c.context.values.reverse.lookup k).or (Json.Fields.get? k fields)) ∧
            (fields.Pairwise (·.1 < ·.1) → merged.Pairwise (·.1 < ·.1))) ∧
        (c.context.values ≠ [] → context.isObject = false →
          r = .error (.validation "context.values requires the context file to hold a JSON object")) := by
  -- the load answers: at once with no file, else after its one read
  obtain ⟨r, hr⟩ : ∃ r, c.loadContext.answerReads files = some r := by
    cases hfile : c.contextFile with
    | none => exact ⟨_, loadContext_no_file c files hfile⟩
    | some path =>
      obtain ⟨t, ht⟩ := readText_answers files path
      cases t with
      | error e => exact ⟨_, loadContext_unreadable c files hfile ht⟩
      | ok text =>
        cases hparse : Json.parse text with
        | error err => exact ⟨_, loadContext_invalid c files hfile ht hparse⟩
        | ok context => exact ⟨_, loadContext_file c files hfile ht hparse⟩
  -- each case reads `r` off the lemma for that case
  have hresult : ∀ {r'}, c.loadContext.answerReads files = some r' → r = r' := fun h =>
    Option.some.inj (hr.symm.trans h)
  refine ⟨r, hr, fun path e hfile hread => hresult (loadContext_unreadable c files hfile hread),
    fun path text err hfile hread hparse => hresult (loadContext_invalid c files hfile hread hparse),
    fun context hholds => ?_⟩
  rw [hresult (loadContext_of_holds c files hholds)]
  refine ⟨fun hnil => by rw [hnil, overlay_nil], fun hvalues fields hobject => ?_,
    fun hvalues hnot => overlay_not_object hvalues hnot⟩
  rw [hobject]
  exact overlay_object hvalues fields

end Load

end Config

end Tagweave
