import Tagweave.Proofs.Serialize
import Tagweave.Proofs.Termination

namespace Tagweave

/-!
# How often references are resolved

The interpolator of a `Renderer` is a function, but the one a program supplies may keep a
state of its own, such as a count of its calls. So the renderer is also given here over any
monad `m` for the interpolator's effects (`Renderer.writeFragmentM` and the functions under
it). The recursion is the same, step for step, and the interpolator is asked for a value where
the renderer resolves a reference.

With `recordCalls` the interpolator's calls are added to a log (`CallLog`), in a state monad.
`Logs p a calls` says that run from any log, `p` ends with `a` and adds `calls` to the log.
The `Logs` lemmas compose it along binds, maps and `List.mapM`.

* `Renderer.logs_write`: a recorded pass writes exactly what the renderer writes, whatever
  its components, and only adds to the log.
* `Renderer.logs_element`: every render of an element below the depth limit first resolves
  each of its references in order, afresh. Then come the calls of its component's actions.
  So children rendered `k` times resolve their references `k` times
  (`Renderer.logs_render_replicate`).
* `Renderer.writeNodesM_logs_refs`: with the default component, the verbatim engine and depth
  enough, a forest's pass calls the interpolator once per reference attribute. Each call is
  in the context of the pass, elements in preorder and attributes in source order
  (`Node.forestRefs`).
* `Renderer.write_resolves_references` is the statement for a whole render pass.
-/

variable {m : Type → Type} [Monad m]

namespace Props

/-- The value of an attribute, a reference's by a call of the interpolator. -/
def resolveValueM (interpolate : Json → String → m (Option Json)) (context : Json) :
    AttrValue → m (Option Json)
  | .str s => pure (some (.string s))
  | .number x => pure (some (numberJson x))
  | .ref accessor => interpolate context accessor

/-- The props of an element, its attributes resolved one after another in source order. -/
def resolveM (interpolate : Json → String → m (Option Json)) (context : Json) (name : String)
    (attrs : Attributes) (children : List Node) : m Props := do
  let resolved ← attrs.toList.mapM fun e => (e.1, ·) <$> resolveValueM interpolate context e.2
  pure ⟨name, children, resolved⟩

@[simp] theorem resolve_name (interpolate : Interpolator) (context : Json) (name : String)
    (attrs : Attributes) (children : List Node) :
    (resolve interpolate context name attrs children).name = name := rfl

@[simp] theorem resolve_children (interpolate : Interpolator) (context : Json) (name : String)
    (attrs : Attributes) (children : List Node) :
    (resolve interpolate context name attrs children).children = children := rfl

end Props

namespace Renderer

mutual
/-- Render a fragment with `fuel` levels of depth left, the interpolator's calls in `m`. -/
def writeFragmentM (r : Renderer) (interpolate : Json → String → m (Option Json)) (fuel : Nat)
    (ctx : Json) (out : String) : Fragment → m Written
  | .absent => pure ⟨out, none⟩
  | .markup s => pure ⟨out ++ s, none⟩
  | .node n => writeNodeM r interpolate fuel ctx out n
  | .nodes ns => writeNodesM r interpolate fuel ctx out ns
  | .value v => pure (writeValue out v)
termination_by (fuel, 2, 0)

/-- Render nodes in order, stopping at the first error. -/
def writeNodesM (r : Renderer) (interpolate : Json → String → m (Option Json)) (fuel : Nat)
    (ctx : Json) (out : String) : List Node → m Written
  | [] => pure ⟨out, none⟩
  | n :: ns => do
    match ← writeNodeM r interpolate fuel ctx out n with
    | ⟨o, none⟩ => writeNodesM r interpolate fuel ctx o ns
    | w => pure w
termination_by ns => (fuel, 1, ns.length)

/-- Render one node: an element's props are resolved after the depth check and the lookup of
    its component, as each render of it does. -/
def writeNodeM (r : Renderer) (interpolate : Json → String → m (Option Json)) (fuel : Nat)
    (ctx : Json) (out : String) (n : Node) : m Written :=
  match fuel with
  | 0 => pure ⟨out, some (.depthLimit r.maxDepth)⟩
  | fuel + 1 =>
    match n with
    | .text data =>
      match r.engine with
      | none => pure ⟨out, some .missingEngine⟩
      | some e => runActionsM r interpolate fuel ctx out (e.convert data)
    | .element name attrs children => do
      let component := (r.components.lookup name).getD r.defaultComponent
      let props ← Props.resolveM interpolate ctx name attrs children
      runActionsM r interpolate fuel ctx out (component props ctx)
termination_by (fuel, 0, 0)

/-- Carry out actions in order, stopping at the first error. -/
def runActionsM (r : Renderer) (interpolate : Json → String → m (Option Json)) (fuel : Nat)
    (ctx : Json) (out : String) : List Action → m Written
  | [] => pure ⟨out, none⟩
  | a :: as => do
    match ← runActionM r interpolate fuel ctx out a with
    | ⟨o, none⟩ => runActionsM r interpolate fuel ctx o as
    | w => pure w
termination_by as => (fuel, 4, as.length)

/-- Carry out one action. -/
def runActionM (r : Renderer) (interpolate : Json → String → m (Option Json)) (fuel : Nat)
    (ctx : Json) (out : String) : Action → m Written
  | .write s => pure ⟨out ++ s, none⟩
  | .render f => writeFragmentM r interpolate fuel ctx out f
  | .renderIn f c => writeFragmentM r interpolate fuel c out f
  | .fail e => pure ⟨out, some e⟩
termination_by (fuel, 3, 0)
end

/-- A render pass at the top level, the interpolator's calls in `m`. -/
def writeM (r : Renderer) (interpolate : Json → String → m (Option Json)) (f : Fragment)
    (ctx : Json) : m Written :=
  r.writeFragmentM interpolate r.maxDepth ctx "" f

end Renderer

/-! ### Recording calls -/

/-- Calls of an interpolator, each a context and an accessor, in the order made. -/
abbrev CallLog := List (Json × String)

/-- An interpolator whose calls are recorded: a call adds its context and accessor to the
    log, then answers as `interpolate` does. -/
def recordCalls (interpolate : Interpolator) (ctx : Json) (accessor : String) :
    StateM CallLog (Option Json) := do
  modify (· ++ [(ctx, accessor)])
  pure (interpolate ctx accessor)

/-- Run from any log, `p` ends with `a` and adds `calls` to the log. -/
def Logs {α : Type} (p : StateM CallLog α) (a : α) (calls : CallLog) : Prop :=
  ∀ log, p.run log = (a, log ++ calls)

namespace Logs

variable {α β γ : Type}

theorem of_pure (a : α) : Logs (pure a) a [] := fun log => by
  rw [List.append_nil]
  rfl

theorem bind {p : StateM CallLog α} {f : α → StateM CallLog β} {a : α} {b : β}
    {calls calls' : CallLog} (hp : Logs p a calls) (hf : Logs (f a) b calls') :
    Logs (p >>= f) b (calls ++ calls') := by
  intro log
  rw [StateT.run_bind, hp log]
  show (f a).run (log ++ calls) = _
  rw [hf, List.append_assoc]

theorem of_calls_eq {p : StateM CallLog α} {a : α} {calls calls' : CallLog}
    (h : Logs p a calls) (heq : calls = calls') : Logs p a calls' := heq ▸ h

theorem map {p : StateM CallLog α} {a : α} {calls : CallLog} (h : Logs p a calls) (g : α → β) :
    Logs (g <$> p) (g a) calls := fun log => by
  rw [StateT.run_map, h log]
  rfl

/-- Mapping over a list makes the calls of each item in turn. -/
theorem mapM {xs : List γ} {f : γ → StateM CallLog β} {g : γ → β} {calls : γ → CallLog}
    (h : ∀ x ∈ xs, Logs (f x) (g x) (calls x)) :
    Logs (xs.mapM f) (xs.map g) (xs.flatMap calls) := by
  induction xs with
  | nil => exact of_pure []
  | cons x xs ih =>
    rw [List.mapM_cons, List.map_cons, List.flatMap_cons]
    refine (h x List.mem_cons_self).bind ?_
    show Logs (List.mapM f xs >>= fun ys => pure (g x :: ys)) _ _
    exact (Logs.bind (f := fun ys => pure (g x :: ys))
      (ih fun y hy => h y (List.mem_cons_of_mem _ hy)) (of_pure _)).of_calls_eq (List.append_nil _)

end Logs

theorem logs_recordCalls (interpolate : Interpolator) (ctx : Json) (accessor : String) :
    Logs (recordCalls interpolate ctx accessor) (interpolate ctx accessor) [(ctx, accessor)] :=
  fun _ => rfl

/-! ### References -/

/-- The accessor of a reference; none for a string or a number. -/
def AttrValue.accessor? : AttrValue → Option String
  | .ref accessor => some accessor
  | _ => none

/-- The accessors of the reference attributes, in source order. -/
def Attributes.refs (attrs : Attributes) : List String := attrs.toList.filterMap (·.2.accessor?)

mutual
/-- The accessors of the references of a node: elements in preorder, and each element's in
    source order. -/
def Node.refs : Node → List String
  | .text _ => []
  | .element _ attrs children => attrs.refs ++ Node.forestRefs children

/-- The accessors of the references of a forest, node after node. -/
def Node.forestRefs : List Node → List String
  | [] => []
  | n :: ns => n.refs ++ Node.forestRefs ns
end

/-- A string or a number is resolved without a call; a reference by exactly one. -/
theorem logs_resolveValueM (interpolate : Interpolator) (ctx : Json) (v : AttrValue) :
    Logs (Props.resolveValueM (recordCalls interpolate) ctx v) (Props.resolveValue interpolate ctx v)
      (v.accessor?.toList.map (ctx, ·)) := by
  cases v with
  | str s => exact Logs.of_pure _
  | number x => exact Logs.of_pure _
  | ref accessor => exact logs_recordCalls interpolate ctx accessor

/-- Resolving an element's props calls the interpolator once per reference, in source order,
    and gives the props the renderer resolves. -/
theorem logs_resolveM (interpolate : Interpolator) (ctx : Json) (name : String) (attrs : Attributes)
    (children : List Node) :
    Logs (Props.resolveM (recordCalls interpolate) ctx name attrs children)
      (Props.resolve interpolate ctx name attrs children) (attrs.refs.map (ctx, ·)) := by
  have hattrs : Logs (attrs.toList.mapM fun e =>
        (e.1, ·) <$> Props.resolveValueM (recordCalls interpolate) ctx e.2)
      (attrs.toList.map fun e => (e.1, Props.resolveValue interpolate ctx e.2))
      (attrs.toList.flatMap fun e => e.2.accessor?.toList.map (ctx, ·)) :=
    Logs.mapM fun e _ => (logs_resolveValueM interpolate ctx e.2).map (e.1, ·)
  have hcalls : attrs.toList.flatMap (fun e => e.2.accessor?.toList.map (ctx, ·)) =
      attrs.refs.map (ctx, ·) := by
    unfold Attributes.refs
    induction attrs.toList with
    | nil => rfl
    | cons e rest ih => cases h : e.2.accessor? <;> simp [h, ih]
  have hvalues : attrs.toList.map (fun e => (e.1, Props.resolveValue interpolate ctx e.2)) =
      (Props.resolve interpolate ctx name attrs children).attrs := by
    simp only [Props.resolve]
  unfold Props.resolveM
  rw [← hcalls, ← List.append_nil (List.flatMap _ _)]
  refine hattrs.bind ?_
  rw [hvalues]
  exact Logs.of_pure _

namespace Renderer

/-! ### Any renderer -/

section Steps

variable {r : Renderer} {interpolate : Json → String → StateM CallLog (Option Json)}
  {fuel : Nat} {ctx : Json}

theorem logs_write_action (s out : String) :
    Logs (r.runActionM interpolate fuel ctx out (.write s)) ⟨out ++ s, none⟩ [] := by
  rw [runActionM]
  exact Logs.of_pure _

theorem logs_render_nodes {out : String} {ns : List Node} {w : Written} {calls : CallLog}
    (h : Logs (r.writeNodesM interpolate fuel ctx out ns) w calls) :
    Logs (r.runActionM interpolate fuel ctx out (.render (.nodes ns))) w calls := by
  rw [runActionM, writeFragmentM]
  exact h

theorem logs_runActionsM_nil (out : String) :
    Logs (r.runActionsM interpolate fuel ctx out []) ⟨out, none⟩ [] := by
  rw [runActionsM]
  exact Logs.of_pure _

/-- Actions make their calls one after another while none stops. -/
theorem logs_runActionsM_cons {out o : String} {a : Action} {as : List Action} {w : Written}
    {calls calls' : CallLog} (ha : Logs (r.runActionM interpolate fuel ctx out a) ⟨o, none⟩ calls)
    (has : Logs (r.runActionsM interpolate fuel ctx o as) w calls') :
    Logs (r.runActionsM interpolate fuel ctx out (a :: as)) w (calls ++ calls') := by
  rw [runActionsM]
  exact ha.bind has

/-- Nodes make their calls one after another while none stops. -/
theorem logs_writeNodesM_cons {out o : String} {n : Node} {ns : List Node} {w : Written}
    {calls calls' : CallLog} (hn : Logs (r.writeNodeM interpolate fuel ctx out n) ⟨o, none⟩ calls)
    (hns : Logs (r.writeNodesM interpolate fuel ctx o ns) w calls') :
    Logs (r.writeNodesM interpolate fuel ctx out (n :: ns)) w (calls ++ calls') := by
  rw [writeNodesM]
  exact hn.bind hns

end Steps

/-- **Each render resolves afresh.** Rendering an element below the depth limit resolves each
    of its references in source order, with the context of the render, and then makes the
    calls of its component's actions. Nothing is kept from an earlier render. -/
theorem logs_element (r : Renderer) {fuel : Nat} {ctx : Json} {out : String} {name : String}
    {attrs : Attributes} {children : List Node} {w : Written} {calls : CallLog}
    (h : Logs (r.runActionsM (recordCalls r.interpolate) fuel ctx out
      (((r.components.lookup name).getD r.defaultComponent)
        (Props.resolve r.interpolate ctx name attrs children) ctx)) w calls) :
    Logs (r.writeNodeM (recordCalls r.interpolate) (fuel + 1) ctx out (.element name attrs children))
      w (attrs.refs.map (ctx, ·) ++ calls) := by
  rw [writeNodeM]
  exact (logs_resolveM _ _ _ _ _).bind h

/-- A recorded pass writes what the renderer writes, whatever its components and engine, and
    only adds to the log. The induction is the one that makes rendering total. -/
theorem logs_write (r : Renderer) :
    (∀ fuel ctx out f, ∃ calls, Logs (r.writeFragmentM (recordCalls r.interpolate) fuel ctx out f)
      (r.writeFragment fuel ctx out f) calls) ∧
    (∀ fuel ctx out ns, ∃ calls, Logs (r.writeNodesM (recordCalls r.interpolate) fuel ctx out ns)
      (r.writeNodes fuel ctx out ns) calls) ∧
    (∀ fuel ctx out n, ∃ calls, Logs (r.writeNodeM (recordCalls r.interpolate) fuel ctx out n)
      (r.writeNode fuel ctx out n) calls) ∧
    (∀ fuel ctx out as, ∃ calls, Logs (r.runActionsM (recordCalls r.interpolate) fuel ctx out as)
      (r.runActions fuel ctx out as) calls) ∧
    (∀ fuel ctx out a, ∃ calls, Logs (r.runActionM (recordCalls r.interpolate) fuel ctx out a)
      (r.runAction fuel ctx out a) calls) := by
  refine writeFragment.mutual_induct r _ _ _ _ _ ?absent ?markup ?node ?nodes ?value ?nodesNil
    ?nodesCons ?nodesStop ?depth ?noEngine ?text ?element ?actionsNil ?actionsCons ?actionsStop
    ?write ?render ?renderIn ?fail
  case absent | markup | value =>
    intros
    exact ⟨[], by rw [writeFragmentM, writeFragment]; exact Logs.of_pure _⟩
  case node | nodes =>
    rintro _ _ _ _ ⟨calls, h⟩
    exact ⟨calls, by rw [writeFragmentM, writeFragment]; exact h⟩
  case nodesNil =>
    intros
    exact ⟨[], by rw [writeNodesM, writeNodes]; exact Logs.of_pure _⟩
  case nodesCons =>
    rintro fuel ctx out n ns o hw ⟨calls, hn⟩ ⟨calls', hns⟩
    rw [hw] at hn
    exact ⟨calls ++ calls', by rw [writeNodes, hw]; exact logs_writeNodesM_cons hn hns⟩
  case nodesStop =>
    rintro fuel ctx out n ns hw ⟨calls, hn⟩
    obtain ⟨o, e, he⟩ := exists_error_of_ne_ok hw
    rw [he] at hn
    exact ⟨calls ++ [], by rw [writeNodesM, writeNodes, he]; exact hn.bind (Logs.of_pure _)⟩
  case depth =>
    intros
    exact ⟨[], by rw [writeNodeM, writeNode]; exact Logs.of_pure _⟩
  case noEngine =>
    intro ctx out fuel data hengine
    exact ⟨[], by rw [writeNodeM, writeNode, hengine]; exact Logs.of_pure _⟩
  case text =>
    rintro ctx out fuel data e hengine ⟨calls, h⟩
    exact ⟨calls, by rw [writeNodeM, writeNode, hengine]; exact h⟩
  case element =>
    -- the props first, then the component's actions
    rintro ctx out fuel name attrs children _ _ ⟨calls, h⟩
    exact ⟨_, by rw [writeNode]; exact logs_element r h⟩
  case actionsNil =>
    intros
    exact ⟨[], by rw [runActionsM, runActions]; exact Logs.of_pure _⟩
  case actionsCons =>
    rintro fuel ctx out a as o hw ⟨calls, ha⟩ ⟨calls', has⟩
    rw [hw] at ha
    exact ⟨calls ++ calls', by rw [runActions, hw]; exact logs_runActionsM_cons ha has⟩
  case actionsStop =>
    rintro fuel ctx out a as hw ⟨calls, ha⟩
    obtain ⟨o, e, he⟩ := exists_error_of_ne_ok hw
    rw [he] at ha
    exact ⟨calls ++ [], by rw [runActionsM, runActions, he]; exact ha.bind (Logs.of_pure _)⟩
  case write | fail =>
    intros
    exact ⟨[], by rw [runActionM, runAction]; exact Logs.of_pure _⟩
  case render =>
    rintro _ _ _ _ ⟨calls, h⟩
    exact ⟨calls, by rw [runActionM, runAction]; exact h⟩
  case renderIn =>
    rintro _ _ _ _ _ ⟨calls, h⟩
    exact ⟨calls, by rw [runActionM, runAction]; exact h⟩

/-- Children rendered `k` times make their calls `k` times. -/
theorem logs_render_replicate (r : Renderer) {fuel : Nat} {ctx : Json} {children : List Node}
    {calls : CallLog}
    (h : ∀ o, ∃ o', Logs (r.writeNodesM (recordCalls r.interpolate) fuel ctx o children)
      ⟨o', none⟩ calls) :
    ∀ (k : Nat) (out : String), ∃ o', Logs (r.runActionsM (recordCalls r.interpolate) fuel ctx out
      (List.replicate k (.render (.nodes children)))) ⟨o', none⟩ (List.replicate k calls).flatten
  | 0, out => ⟨out, logs_runActionsM_nil out⟩
  | k + 1, out => by
    obtain ⟨o, ho⟩ := h out
    obtain ⟨o', hrest⟩ := logs_render_replicate r h k o
    exact ⟨o', (logs_runActionsM_cons (logs_render_nodes ho) hrest).of_calls_eq
      (by rw [List.replicate_succ, List.flatten_cons])⟩

/-! ### Tags written back -/

variable {r : Renderer} {ctx : Json}

mutual
/-- With the default component, the verbatim engine and depth enough, a node's pass appends
    its serialization and calls the interpolator once per reference of the node, in
    preorder. -/
theorem writeNodeM_logs_refs (hr : r.WritesBack) : ∀ (n : Node) (fuel : Nat) (out : String),
    n.height ≤ fuel → (∀ x ∈ n.tagNames, r.components.lookup x = none) →
    Logs (r.writeNodeM (recordCalls r.interpolate) fuel ctx out n)
      ⟨out ++ n.serialize r.interpolate ctx, none⟩ (n.refs.map (ctx, ·))
  | n, 0, _, hfuel, _ => absurd hfuel (by have := n.height_pos; omega)
  | .text data, fuel + 1, out, _, _ => by
    rw [writeNodeM, hr.engine]
    simpa [Node.refs, Node.serialize, Engine.verbatim] using
      logs_runActionsM_cons (logs_write_action data out) (logs_runActionsM_nil _)
  | .element name attrs children, fuel + 1, out, hfuel, hnames => by
    have hlookup : r.components.lookup name = none := hnames name (by simp [Node.tagNames])
    have hchildren := writeNodesM_logs_refs hr children fuel
      (out ++ openTagText (Props.resolve r.interpolate ctx name attrs children))
      (by simp only [Node.height] at hfuel; omega)
      (fun x hx => hnames x (by simp [Node.tagNames, hx]))
    -- the start tag, the children once, the closing tag
    have hactions := logs_runActionsM_cons (logs_write_action _ out)
      (logs_runActionsM_cons (logs_render_nodes hchildren)
        (logs_runActionsM_cons (logs_write_action ("</" ++ name ++ ">") _)
          (logs_runActionsM_nil _)))
    have hcomponent : Logs (r.runActionsM (recordCalls r.interpolate) fuel ctx out
        (Tagweave.defaultComponent (Props.resolve r.interpolate ctx name attrs children) ctx))
        ⟨out ++ (Node.element name attrs children).serialize r.interpolate ctx, none⟩
        ((Node.forestRefs children).map (ctx, ·)) := by
      simpa [Tagweave.defaultComponent, writeTag, openTagText_resolve, Node.serialize,
        String.append_assoc] using hactions
    have helement := @logs_element r fuel ctx out name attrs children _ _
      (by rwa [hlookup, Option.getD_none, hr.defaultComponent])
    exact helement.of_calls_eq (by simp [Node.refs])

/-- The run lemma over a forest: node after node. -/
theorem writeNodesM_logs_refs (hr : r.WritesBack) : ∀ (ns : List Node) (fuel : Nat) (out : String),
    Node.forestHeight ns ≤ fuel → (∀ x ∈ Node.forestTagNames ns, r.components.lookup x = none) →
    Logs (r.writeNodesM (recordCalls r.interpolate) fuel ctx out ns)
      ⟨out ++ Node.serializeForest r.interpolate ctx ns, none⟩ ((Node.forestRefs ns).map (ctx, ·))
  | [], fuel, out, _, _ => by
    rw [writeNodesM]
    simpa [Node.forestRefs, Node.serializeForest] using Logs.of_pure (⟨out, none⟩ : Written)
  | n :: ns, fuel, out, hfuel, hnames => by
    simp only [Node.forestHeight, Nat.max_le] at hfuel
    have hn := writeNodeM_logs_refs hr n fuel out hfuel.1
      (fun x hx => hnames x (by simp [Node.forestTagNames, hx]))
    have hns := writeNodesM_logs_refs hr ns fuel
      (out ++ n.serialize r.interpolate ctx) hfuel.2
      (fun x hx => hnames x (by simp [Node.forestTagNames, hx]))
    simpa [Node.forestRefs, Node.serializeForest, String.append_assoc] using
      logs_writeNodesM_cons hn hns
end

/-- **References are resolved once per render.** Render a forest with the default component
    for every tag, the verbatim engine, an interpolator whose calls are recorded and a depth
    limit at least the forest's height. The pass writes what the renderer writes, and it
    calls the interpolator exactly once per reference attribute. Each call is made with the
    pass's context and the attribute's accessor, elements in preorder and attributes in
    source order, and strings and numbers never reach it. With any components, a recorded
    pass writes what the renderer writes. Each render of an element resolves all its
    references afresh before its component's actions make their calls. So a component that
    renders children `k` times has their calls made `k` times. -/
theorem write_resolves_references (components : Registry) (interpolate : Interpolator)
    (maxDepth : Nat) (t : List Node) (context : Json) (hdepth : Node.forestHeight t ≤ maxDepth)
    (hunregistered : ∀ x ∈ Node.forestTagNames t, components.lookup x = none) :
    ((Renderer.mk components (some .verbatim) Tagweave.defaultComponent interpolate maxDepth).writeM
        (recordCalls interpolate) (.nodes t) context).run [] =
      ((Renderer.mk components (some .verbatim) Tagweave.defaultComponent interpolate maxDepth).write
        (.nodes t) context, (Node.forestRefs t).map (context, ·)) ∧
    (∀ (r : Renderer) fuel ctx out n, ∃ calls,
      Logs (r.writeNodeM (recordCalls r.interpolate) fuel ctx out n) (r.writeNode fuel ctx out n)
        calls) ∧
    (∀ (r : Renderer) fuel ctx out name attrs children w calls,
      Logs (r.runActionsM (recordCalls r.interpolate) fuel ctx out
        (((r.components.lookup name).getD r.defaultComponent)
          (Props.resolve r.interpolate ctx name attrs children) ctx)) w calls →
      Logs (r.writeNodeM (recordCalls r.interpolate) (fuel + 1) ctx out
        (.element name attrs children)) w (attrs.refs.map (ctx, ·) ++ calls)) ∧
    (∀ (r : Renderer) fuel ctx children calls k out,
      (∀ o, ∃ o', Logs (r.writeNodesM (recordCalls r.interpolate) fuel ctx o children)
        ⟨o', none⟩ calls) →
      ∃ o', Logs (r.runActionsM (recordCalls r.interpolate) fuel ctx out
        (List.replicate k (.render (.nodes children)))) ⟨o', none⟩
          (List.replicate k calls).flatten) := by
  have hr : (Renderer.mk components (some .verbatim) Tagweave.defaultComponent interpolate
      maxDepth).WritesBack := ⟨rfl, rfl⟩
  have hpass := @writeNodesM_logs_refs _ context hr t maxDepth "" hdepth hunregistered
  have hwrite := write_eq_serializeForest components interpolate maxDepth t context hdepth
    hunregistered
  refine ⟨?_, fun r => (logs_write r).2.2.1, fun r _ _ _ _ _ _ _ _ h => logs_element r h,
    fun r _ _ _ _ k out h => logs_render_replicate r h k out⟩
  rw [hwrite]
  simpa [writeM, writeFragmentM] using hpass []

/-- A paragraph with a string, a number and a reference attribute, rendered with its calls
    recorded: the one reference is resolved once. -/
theorem write_resolves_paragraph_reference :
    Node.forestHeight [.element "p" (((Attributes.empty.insert "s" (.str "x")).insert "n"
      (.number (Binary64.make false 1024 0))).insert "r" (.ref "a")) [.text "hi"]] ≤ 2 ∧
    (∀ x ∈ Node.forestTagNames [.element "p" (((Attributes.empty.insert "s" (.str "x")).insert "n"
      (.number (Binary64.make false 1024 0))).insert "r" (.ref "a")) [.text "hi"]],
        Registry.empty.lookup x = none) ∧
    ((Renderer.mk .empty (some .verbatim) Tagweave.defaultComponent pathInterpolator 2).writeM
        (recordCalls pathInterpolator) (.nodes [.element "p" (((Attributes.empty.insert "s"
          (.str "x")).insert "n" (.number (Binary64.make false 1024 0))).insert "r" (.ref "a"))
          [.text "hi"]]) .null).run [] =
      ((Renderer.mk .empty (some .verbatim) Tagweave.defaultComponent pathInterpolator 2).write
        (.nodes [.element "p" (((Attributes.empty.insert "s" (.str "x")).insert "n"
          (.number (Binary64.make false 1024 0))).insert "r" (.ref "a")) [.text "hi"]]) .null,
        [(.null, "a")]) := by
  have hdepth : Node.forestHeight [.element "p" (((Attributes.empty.insert "s" (.str "x")).insert
      "n" (.number (Binary64.make false 1024 0))).insert "r" (.ref "a")) [.text "hi"]] ≤ 2 := by decide
  have hnames : ∀ x ∈ Node.forestTagNames [.element "p" (((Attributes.empty.insert "s"
      (.str "x")).insert "n" (.number (Binary64.make false 1024 0))).insert "r" (.ref "a")) [.text "hi"]],
      Registry.empty.lookup x = none := by simp [Registry.empty, Registry.lookup]
  exact ⟨hdepth, hnames,
    (write_resolves_references .empty pathInterpolator 2 _ .null hdepth hnames).1.trans rfl⟩

end Renderer

end Tagweave
