import Tagweave.Render.Renderer

namespace Tagweave

/-!
# Rendering terminates

The renderer counts depth upwards. A render pass starts at depth 0, and a node is rendered at
the depth of the handle it is given. A node at depth `maxDepth` or deeper is the depth error,
with nothing invoked. The actions of the component or engine of a node at depth `k` run with a
handle at depth `k + 1`, whether they render in the current context or in another one.

* `Renderer.Renders` states these rules as a big-step relation with no measure in it. A
  derivation is a finished run, so a job that renders has terminated.
* `Renderer.renders_runJob`: every job renders, with the outcome that the fuelled functions
  compute with `maxDepth - depth` levels left. Its proof is the well-founded induction on the
  levels left and the size of the job, whatever the components and the engine do.
* `Renderer.Renders.eq_runJob`: that outcome is the only one.
* `Renderer.renders_iff_write`: a render pass has exactly one outcome, the one `write` gives.
-/

namespace Renderer

/-- Rendering work: a fragment, nodes in order, one node, a component's or engine's actions,
    one action. -/
inductive Job where
  | fragment (f : Fragment)
  | nodes (ns : List Node)
  | node (n : Node)
  | actions (as : List Action)
  | action (a : Action)

/-- What the fuelled functions give for a job with `fuel` levels left. -/
def runJob (r : Renderer) (fuel : Nat) (ctx : Json) (out : String) : Job → Written
  | .fragment f => r.writeFragment fuel ctx out f
  | .nodes ns => r.writeNodes fuel ctx out ns
  | .node n => r.writeNode fuel ctx out n
  | .actions as => r.runActions fuel ctx out as
  | .action a => r.runAction fuel ctx out a

/-- `r.Renders depth ctx out job w`: done with a handle at `depth`, in the context `ctx` and
    after the output `out`, the job finishes with `w`. -/
inductive Renders (r : Renderer) : Nat → Json → String → Job → Written → Prop where
  | absent {depth ctx out} : r.Renders depth ctx out (.fragment .absent) ⟨out, none⟩
  | markup {depth ctx out s} : r.Renders depth ctx out (.fragment (.markup s)) ⟨out ++ s, none⟩
  | node {depth ctx out n w} :
      r.Renders depth ctx out (.node n) w → r.Renders depth ctx out (.fragment (.node n)) w
  | nodes {depth ctx out ns w} :
      r.Renders depth ctx out (.nodes ns) w → r.Renders depth ctx out (.fragment (.nodes ns)) w
  /-- A JSON value is written by its own recursion on the value. -/
  | value {depth ctx out v} : r.Renders depth ctx out (.fragment (.value v)) (writeValue out v)
  | nodesNil {depth ctx out} : r.Renders depth ctx out (.nodes []) ⟨out, none⟩
  | nodesCons {depth ctx out n ns o w} :
      r.Renders depth ctx out (.node n) ⟨o, none⟩ → r.Renders depth ctx o (.nodes ns) w →
      r.Renders depth ctx out (.nodes (n :: ns)) w
  | nodesStop {depth ctx out n ns o e} :
      r.Renders depth ctx out (.node n) ⟨o, some e⟩ →
      r.Renders depth ctx out (.nodes (n :: ns)) ⟨o, some e⟩
  /-- At the limit a node invokes nothing. -/
  | depthLimit {depth ctx out n} :
      r.maxDepth ≤ depth → r.Renders depth ctx out (.node n) ⟨out, some (.depthLimit r.maxDepth)⟩
  | missingEngine {depth ctx out data} :
      depth < r.maxDepth → r.engine = none →
      r.Renders depth ctx out (.node (.text data)) ⟨out, some .missingEngine⟩
  /-- The engine's actions run one level deeper. -/
  | text {depth ctx out data e w} :
      depth < r.maxDepth → r.engine = some e →
      r.Renders (depth + 1) ctx out (.actions (e.convert data)) w →
      r.Renders depth ctx out (.node (.text data)) w
  /-- The component's actions run one level deeper. -/
  | element {depth ctx out name attrs children w} :
      depth < r.maxDepth →
      r.Renders (depth + 1) ctx out (.actions (((r.components.lookup name).getD r.defaultComponent)
        (Props.resolve r.interpolate ctx name attrs children) ctx)) w →
      r.Renders depth ctx out (.node (.element name attrs children)) w
  | actionsNil {depth ctx out} : r.Renders depth ctx out (.actions []) ⟨out, none⟩
  | actionsCons {depth ctx out a as o w} :
      r.Renders depth ctx out (.action a) ⟨o, none⟩ → r.Renders depth ctx o (.actions as) w →
      r.Renders depth ctx out (.actions (a :: as)) w
  | actionsStop {depth ctx out a as o e} :
      r.Renders depth ctx out (.action a) ⟨o, some e⟩ →
      r.Renders depth ctx out (.actions (a :: as)) ⟨o, some e⟩
  | write {depth ctx out s} : r.Renders depth ctx out (.action (.write s)) ⟨out ++ s, none⟩
  /-- Rendering through the handle keeps its depth. -/
  | render {depth ctx out f w} :
      r.Renders depth ctx out (.fragment f) w → r.Renders depth ctx out (.action (.render f)) w
  /-- So does rendering in another context. -/
  | renderIn {depth ctx out f c w} :
      r.Renders depth c out (.fragment f) w → r.Renders depth ctx out (.action (.renderIn f c)) w
  | fail {depth ctx out e} : r.Renders depth ctx out (.action (.fail e)) ⟨out, some e⟩

variable {r : Renderer}

/-- A run that stopped has an error. -/
theorem exists_error_of_ne_ok {w : Written} (h : ∀ o, w ≠ ⟨o, none⟩) : ∃ o e, w = ⟨o, some e⟩ := by
  obtain ⟨o, _ | e⟩ := w
  · exact absurd rfl (h o)
  · exact ⟨o, e, rfl⟩

/-- A list of nodes renders node by node; the first that stops stops the list. -/
theorem renders_nodes_cons {depth : Nat} {ctx : Json} {out : String} {n : Node} {ns : List Node}
    {fuel : Nat} (hn : r.Renders depth ctx out (.node n) (r.writeNode fuel ctx out n))
    (hns : ∀ o, r.writeNode fuel ctx out n = ⟨o, none⟩ →
      r.Renders depth ctx o (.nodes ns) (r.writeNodes fuel ctx o ns)) :
    r.Renders depth ctx out (.nodes (n :: ns)) (r.writeNodes fuel ctx out (n :: ns)) := by
  rw [writeNodes]
  by_cases hok : ∃ o, r.writeNode fuel ctx out n = ⟨o, none⟩
  · obtain ⟨o, ho⟩ := hok
    rw [ho] at hn ⊢
    exact .nodesCons hn (hns o ho)
  · obtain ⟨o, e, he⟩ := exists_error_of_ne_ok fun o h => hok ⟨o, h⟩
    rw [he] at hn ⊢
    exact .nodesStop hn

/-- Actions run one by one; the first that stops stops the rest. -/
theorem renders_actions_cons {depth : Nat} {ctx : Json} {out : String} {a : Action}
    {as : List Action} {fuel : Nat}
    (ha : r.Renders depth ctx out (.action a) (r.runAction fuel ctx out a))
    (has : ∀ o, r.runAction fuel ctx out a = ⟨o, none⟩ →
      r.Renders depth ctx o (.actions as) (r.runActions fuel ctx o as)) :
    r.Renders depth ctx out (.actions (a :: as)) (r.runActions fuel ctx out (a :: as)) := by
  rw [runActions]
  by_cases hok : ∃ o, r.runAction fuel ctx out a = ⟨o, none⟩
  · obtain ⟨o, ho⟩ := hok
    rw [ho] at ha ⊢
    exact .actionsCons ha (has o ho)
  · obtain ⟨o, e, he⟩ := exists_error_of_ne_ok fun o h => hok ⟨o, h⟩
    rw [he] at ha ⊢
    exact .actionsStop ha

/-- **Every job renders.** Done at `depth`, a job renders with the outcome the fuelled
    functions give with `maxDepth - depth` levels left. The induction is the one that makes
    the functions total: on the levels left, then on the size of the job. A node spends a
    level, and everything its component or engine asks for is done with the level that is
    left, in whatever context it asks. -/
theorem renders_runJob (depth : Nat) (ctx : Json) (out : String) (job : Job) :
    r.Renders depth ctx out job (r.runJob (r.maxDepth - depth) ctx out job) := by
  have hall := writeFragment.mutual_induct r
    (fun fuel ctx out f => ∀ depth, r.maxDepth - depth = fuel →
      r.Renders depth ctx out (.fragment f) (r.writeFragment fuel ctx out f))
    (fun fuel ctx out ns => ∀ depth, r.maxDepth - depth = fuel →
      r.Renders depth ctx out (.nodes ns) (r.writeNodes fuel ctx out ns))
    (fun fuel ctx out n => ∀ depth, r.maxDepth - depth = fuel →
      r.Renders depth ctx out (.node n) (r.writeNode fuel ctx out n))
    (fun fuel ctx out as => ∀ depth, r.maxDepth - depth = fuel →
      r.Renders depth ctx out (.actions as) (r.runActions fuel ctx out as))
    (fun fuel ctx out a => ∀ depth, r.maxDepth - depth = fuel →
      r.Renders depth ctx out (.action a) (r.runAction fuel ctx out a))
    (fun _ _ _ _ _ => by rw [writeFragment]; exact .absent)
    (fun _ _ _ _ _ _ => by rw [writeFragment]; exact .markup)
    (fun _ _ _ _ ih depth hd => by rw [writeFragment]; exact .node (ih depth hd))
    (fun _ _ _ _ ih depth hd => by rw [writeFragment]; exact .nodes (ih depth hd))
    (fun _ _ _ _ _ _ => by rw [writeFragment]; exact .value)
    (fun _ _ _ _ _ => by rw [writeNodes]; exact .nodesNil)
    (fun _ _ _ _ _ _ _ ihn ihns depth hd =>
      renders_nodes_cons (ihn depth hd) fun o ho => by
        rename_i hfirst
        rw [hfirst] at ho
        cases ho
        exact ihns depth hd)
    (fun _ _ _ _ _ hstop ihn depth hd =>
      renders_nodes_cons (ihn depth hd) fun o ho => absurd ho (hstop o))
    (fun _ _ _ depth hd => by
      -- no levels left: the depth has reached the limit
      rw [writeNode]
      exact .depthLimit (by omega))
    (fun _ _ fuel _ hengine depth hd => by
      rw [writeNode, hengine]
      exact .missingEngine (by omega) hengine)
    (fun _ _ fuel _ e hengine ih depth hd => by
      rw [writeNode, hengine]
      exact .text (by omega) hengine (ih (depth + 1) (by omega)))
    (fun _ _ fuel _ _ _ ih depth hd => by
      rw [writeNode]
      exact .element (by omega) (ih (depth + 1) (by omega)))
    (fun _ _ _ _ _ => by rw [runActions]; exact .actionsNil)
    (fun _ _ _ _ _ _ _ iha ihas depth hd =>
      renders_actions_cons (iha depth hd) fun o ho => by
        rename_i hfirst
        rw [hfirst] at ho
        cases ho
        exact ihas depth hd)
    (fun _ _ _ _ _ hstop iha depth hd =>
      renders_actions_cons (iha depth hd) fun o ho => absurd ho (hstop o))
    (fun _ _ _ _ _ _ => by rw [runAction]; exact .write)
    (fun _ _ _ _ ih depth hd => by rw [runAction]; exact .render (ih depth hd))
    (fun _ _ _ _ _ ih depth hd => by rw [runAction]; exact .renderIn (ih depth hd))
    (fun _ _ _ _ _ _ => by rw [runAction]; exact .fail)
  obtain ⟨hfragment, hnodes, hnode, hactions, haction⟩ := hall
  cases job with
  | fragment f => exact hfragment _ ctx out f depth rfl
  | nodes ns => exact hnodes _ ctx out ns depth rfl
  | node n => exact hnode _ ctx out n depth rfl
  | actions as => exact hactions _ ctx out as depth rfl
  | action a => exact haction _ ctx out a depth rfl

/-- Below the limit a node spends one of the levels left. -/
theorem levels_succ {depth : Nat} (hd : depth < r.maxDepth) :
    r.maxDepth - depth = r.maxDepth - (depth + 1) + 1 := by
  omega

/-- **A job renders one way.** Whatever a job renders with is the outcome the fuelled
    functions give. -/
theorem Renders.eq_runJob {depth : Nat} {ctx : Json} {out : String} {job : Job} {w : Written}
    (h : r.Renders depth ctx out job w) : w = r.runJob (r.maxDepth - depth) ctx out job := by
  induction h with
  | absent | markup | value | nodesNil | actionsNil | write | fail =>
    simp [runJob, writeFragment, writeNodes, runActions, runAction]
  | node _ ih | nodes _ ih | render _ ih | renderIn _ ih =>
    simpa [runJob, writeFragment, runAction] using ih
  | nodesCons _ _ ihn ihns =>
    simp only [runJob] at ihn ihns ⊢
    rw [writeNodes, ← ihn]
    exact ihns
  | nodesStop _ ihn =>
    simp only [runJob] at ihn ⊢
    rw [writeNodes, ← ihn]
  | actionsCons _ _ iha ihas =>
    simp only [runJob] at iha ihas ⊢
    rw [runActions, ← iha]
    exact ihas
  | actionsStop _ iha =>
    simp only [runJob] at iha ⊢
    rw [runActions, ← iha]
  | depthLimit hd =>
    simp only [runJob]
    rw [show r.maxDepth - _ = 0 by omega, writeNode]
  | missingEngine hd hengine =>
    simp only [runJob]
    rw [levels_succ hd, writeNode, hengine]
  | text hd hengine _ ih =>
    simp only [runJob] at ih ⊢
    rw [levels_succ hd, writeNode, hengine]
    exact ih
  | element hd _ ih =>
    simp only [runJob] at ih ⊢
    rw [levels_succ hd, writeNode]
    exact ih

/-- **Rendering terminates.** For any renderer (any components, default component, engine,
    interpolator and depth limit), any fragment and any context, a render pass from depth 0 has
    exactly one outcome, output with an error or without one, and it is what `write` gives. -/
theorem renders_iff_write (r : Renderer) (f : Fragment) (ctx : Json) (w : Written) :
    r.Renders 0 ctx "" (.fragment f) w ↔ w = r.write f ctx := by
  constructor
  · intro h
    simpa [runJob, write] using h.eq_runJob
  · rintro rfl
    simpa [runJob, write] using renders_runJob (r := r) 0 ctx "" (.fragment f)

end Renderer

end Tagweave
