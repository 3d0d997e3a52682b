import Tagweave.Proofs.Walk

namespace Tagweave

/-!
# Where rendering stops

A renderer that writes tags back (the default component, and the verbatim engine or none)
renders a forest along its walk. Each step writes its markup, unless it is a fault. A fault is
a node at the depth limit or deeper, or a text node when there is no engine. At the first
fault rendering stops with that fault's error.

* `Step.fault` is the error a step stops at. Depth comes first, so a text node past the limit
  is a depth error whether or not there is an engine.
* `Step.replay` writes a walk step by step up to its first fault.
  `Renderer.writeNodes_replay` is the run lemma: rendering a forest with `fuel` levels left
  replays its walk from depth `maxDepth - fuel`.
* `Renderer.write_stops_at_first_fault`: a render pass fails at the first fault of the walk
  with its error. Its output is then exactly the serialization up to that node. With no
  fault it writes the whole serialization.
-/

/-- The error rendering stops with at a step: a node at depth `limit` or deeper, then a text
    node with no engine. Leaving an element never fails. -/
def Step.fault (hasEngine : Bool) (limit : Nat) : Step → Option RenderError
  | .enter _ _ depth => if limit ≤ depth then some (.depthLimit limit) else none
  | .text _ depth =>
    if limit ≤ depth then some (.depthLimit limit)
    else if hasEngine then none else some .missingEngine
  | .leave _ _ => none

/-- Write the steps' markup after `out` in order, stopping at the first fault. -/
def Step.replay (hasEngine : Bool) (limit : Nat) (interpolate : Interpolator) (context : Json)
    (out : String) : List Step → Written
  | [] => ⟨out, none⟩
  | s :: steps =>
    match s.fault hasEngine limit with
    | some e => ⟨out, some e⟩
    | none => Step.replay hasEngine limit interpolate context (out ++ s.markup interpolate context) steps

namespace Step

section Replay

variable {hasEngine : Bool} {limit : Nat} {interpolate : Interpolator} {context : Json}

@[simp] theorem replay_nil (out : String) :
    replay hasEngine limit interpolate context out [] = ⟨out, none⟩ := rfl

theorem replay_cons_ok {s : Step} (h : s.fault hasEngine limit = none) (out : String)
    (steps : List Step) :
    replay hasEngine limit interpolate context out (s :: steps) =
      replay hasEngine limit interpolate context (out ++ s.markup interpolate context) steps := by
  simp [replay, h]

theorem replay_cons_fault {s : Step} {e : RenderError} (h : s.fault hasEngine limit = some e)
    (out : String) (steps : List Step) :
    replay hasEngine limit interpolate context out (s :: steps) = ⟨out, some e⟩ := by
  simp [replay, h]

/-- Replaying two runs of steps replays the second after the first, unless the first stops. -/
theorem replay_append (out : String) (steps steps' : List Step) :
    replay hasEngine limit interpolate context out (steps ++ steps') =
      match replay hasEngine limit interpolate context out steps with
      | ⟨o, none⟩ => replay hasEngine limit interpolate context o steps'
      | w => w := by
  induction steps generalizing out with
  | nil => rfl
  | cons s steps ih =>
    cases hs : s.fault hasEngine limit with
    | none => rw [List.cons_append, replay_cons_ok hs, replay_cons_ok hs, ih]
    | some e => rw [List.cons_append, replay_cons_fault hs, replay_cons_fault hs]

/-- Steps with no fault write all their markup. -/
theorem replay_of_no_fault {steps : List Step}
    (h : ∀ s ∈ steps, s.fault hasEngine limit = none) (out : String) :
    replay hasEngine limit interpolate context out steps =
      ⟨out ++ markupOf interpolate context steps, none⟩ := by
  induction steps generalizing out with
  | nil => simp
  | cons s steps ih =>
    rw [replay_cons_ok (h s (by simp)), ih (fun u hu => h u (by simp [hu]))]
    simp [String.append_assoc]

/-- Replay stops at the first fault, having written the markup of the steps before it. -/
theorem replay_first_fault {before after : List Step} {s : Step} {e : RenderError}
    (hbefore : ∀ u ∈ before, u.fault hasEngine limit = none) (hs : s.fault hasEngine limit = some e)
    (out : String) :
    replay hasEngine limit interpolate context out (before ++ s :: after) =
      ⟨out ++ markupOf interpolate context before, some e⟩ := by
  rw [replay_append, replay_of_no_fault hbefore]
  exact replay_cons_fault hs _ after

end Replay

end Step

namespace Renderer

/-- A renderer that writes every tag back with the default component and text, if it has an
    engine at all, as it is. -/
structure WritesTags (r : Renderer) : Prop where
  engine : r.engine = none ∨ r.engine = some Engine.verbatim
  defaultComponent : r.defaultComponent = Tagweave.defaultComponent

variable {r : Renderer} {context : Json}

/-- A text node below the limit: the verbatim engine writes it, and with no engine it is a
    fault. -/
theorem writeNode_text (hr : r.WritesTags) {fuel : Nat} (data : String) (out : String) :
    r.writeNode (fuel + 1) context out (.text data) =
      if r.engine.isSome then ⟨out ++ data, none⟩ else ⟨out, some .missingEngine⟩ := by
  rcases hr.engine with h | h <;> simp [writeNode, h, Engine.verbatim, runActions, runAction]

mutual
/-- With `fuel` levels left, a node whose tags are all unregistered renders as its walk from
    depth `maxDepth - fuel` replays. -/
theorem writeNode_replay (hr : r.WritesTags) : ∀ (n : Node) (fuel : Nat) (out : String),
    fuel ≤ r.maxDepth → (∀ x ∈ n.tagNames, r.components.lookup x = none) →
    r.writeNode fuel context out n =
      Step.replay r.engine.isSome r.maxDepth r.interpolate context out (n.walk (r.maxDepth - fuel))
  | .text data, 0, out, _, _ => by
    simp [writeNode, Step.replay, Step.fault]
  | .element name attrs children, 0, out, _, _ => by
    simp [writeNode, Step.replay, Step.fault]
  | .text data, fuel + 1, out, hfuel, _ => by
    have hdepth : ¬ r.maxDepth ≤ r.maxDepth - (fuel + 1) := by omega
    rw [writeNode_text hr]
    cases r.engine.isSome <;> simp [Step.replay, Step.fault, hdepth, Step.markup]
  | .element name attrs children, fuel + 1, out, hfuel, hnames => by
    have hdepth : ¬ r.maxDepth ≤ r.maxDepth - (fuel + 1) := by omega
    have hlookup : r.components.lookup name = none := hnames name (by simp [Node.tagNames])
    -- the children are one level deeper: `maxDepth - fuel` is the element's depth plus one
    have hchildren := writeNodes_replay hr children fuel
      (out ++ openTagText (Props.resolve r.interpolate context name attrs children)) (by omega)
      (fun x hx => hnames x (by simp [Node.tagNames, hx]))
    have hlevel : r.maxDepth - fuel = r.maxDepth - (fuel + 1) + 1 := by omega
    rw [writeNode, hlookup, Option.getD_none, hr.defaultComponent]
    simp only [Tagweave.defaultComponent, writeTag, runActions, runAction, writeFragment]
    rw [openTagText_resolve] at hchildren ⊢
    simp only [Props.resolve] at hchildren ⊢
    rw [hchildren, hlevel, Node.walk_element, List.cons_append,
      Step.replay_cons_ok (by simp [Step.fault, hdepth]), Step.replay_append]
    simp only [Step.markup]
    -- after the children, the closing tag is written unless they stopped
    generalize Step.replay r.engine.isSome r.maxDepth r.interpolate context _
      (Node.forestWalk _ children) = w
    obtain ⟨o, _ | e⟩ := w <;> simp [Step.replay, Step.fault, Step.markup]

/-- The run lemma: with `fuel` levels left, a forest whose tags are all unregistered renders
    as its walk from depth `maxDepth - fuel` replays. -/
theorem writeNodes_replay (hr : r.WritesTags) : ∀ (ns : List Node) (fuel : Nat) (out : String),
    fuel ≤ r.maxDepth → (∀ x ∈ Node.forestTagNames ns, r.components.lookup x = none) →
    r.writeNodes fuel context out ns =
      Step.replay r.engine.isSome r.maxDepth r.interpolate context out
        (Node.forestWalk (r.maxDepth - fuel) ns)
  | [], fuel, out, _, _ => by simp [writeNodes]
  | n :: ns, fuel, out, hfuel, hnames => by
    have hn := writeNode_replay hr n fuel out hfuel
      (fun x hx => hnames x (by simp [Node.forestTagNames, hx]))
    rw [writeNodes, hn, Node.forestWalk_cons, Step.replay_append]
    have hns := fun o => writeNodes_replay hr ns fuel o hfuel
      (fun x hx => hnames x (by simp [Node.forestTagNames, hx]))
    cases Step.replay r.engine.isSome r.maxDepth r.interpolate context out _ with
    | mk o e => cases e <;> simp [hns]
end

/-- **The first fault decides.** Render a forest with a renderer that writes its tags back,
    none of them registered. Walk the forest in preorder. The first step that faults is a node
    at depth `maxDepth` or deeper, or a text node with no engine. If there is one, rendering
    fails with its error, and the output followed by the markup of that step and all later ones
    is the forest's serialization: the output holds everything written for the nodes before it,
    the start tags of its ancestors included, and nothing of it or after it. If no step faults,
    rendering writes the whole serialization. -/
theorem write_stops_at_first_fault (hr : r.WritesTags) (t : List Node)
    (hunregistered : ∀ x ∈ Node.forestTagNames t, r.components.lookup x = none) :
    (∀ before s after e, Node.forestWalk 0 t = before ++ s :: after →
      (∀ u ∈ before, u.fault r.engine.isSome r.maxDepth = none) →
      s.fault r.engine.isSome r.maxDepth = some e →
      (r.write (.nodes t) context).error = some e ∧
      (r.write (.nodes t) context).out ++ Step.markupOf r.interpolate context (s :: after) =
        Node.serializeForest r.interpolate context t) ∧
    ((∀ s ∈ Node.forestWalk 0 t, s.fault r.engine.isSome r.maxDepth = none) →
      r.write (.nodes t) context = ⟨Node.serializeForest r.interpolate context t, none⟩) := by
  have hrun : r.write (.nodes t) context =
      Step.replay r.engine.isSome r.maxDepth r.interpolate context "" (Node.forestWalk 0 t) := by
    rw [write_nodes, writeNodes_replay hr t r.maxDepth "" (Nat.le_refl _) hunregistered,
      Nat.sub_self]
  constructor
  · intro before s after e hwalk hbefore hs
    rw [hrun, hwalk, Step.replay_first_fault hbefore hs,
      Node.serializeForest_eq_markupOf r.interpolate context t 0, hwalk]
    simp
  · intro hnone
    rw [hrun, Step.replay_of_no_fault hnone,
      ← Node.serializeForest_eq_markupOf r.interpolate context t 0]
    simp

/-- A paragraph rendered with no engine stops at its text, with the start tag written. -/
theorem write_paragraph_stops_at_text :
    (Renderer.mk .empty none Tagweave.defaultComponent pathInterpolator 2).WritesTags ∧
    ((Renderer.mk .empty none Tagweave.defaultComponent pathInterpolator 2).write
      (.nodes [.element "p" .empty [.text "hi"]]) .null).error = some .missingEngine ∧
    ((Renderer.mk .empty none Tagweave.defaultComponent pathInterpolator 2).write
      (.nodes [.element "p" .empty [.text "hi"]]) .null).out ++
        Step.markupOf pathInterpolator .null [.text "hi" 1, .leave "p" 0] =
      Node.serializeForest pathInterpolator .null [.element "p" .empty [.text "hi"]] :=
  have hr : (Renderer.mk .empty none Tagweave.defaultComponent pathInterpolator 2).WritesTags :=
    ⟨.inl rfl, rfl⟩
  ⟨hr, (write_stops_at_first_fault hr [.element "p" .empty [.text "hi"]]
    (by simp [Node.forestTagNames, Node.tagNames, Registry.empty, Registry.lookup])).1
    [.enter "p" .empty 0] (.text "hi" 1) [.leave "p" 0] .missingEngine
    (by simp [Node.forestWalk, Node.walk]) (by simp [Step.fault]) (by simp [Step.fault])⟩

end Renderer

end Tagweave
