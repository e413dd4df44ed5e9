/-
  SqlClauses.Proofs.Interleaving — clause calls of different kinds do not see each other.

  A query holds one part for each stage of rendering, and what was last prepared. A clause
  call belongs to a stage (`Call.stage`) and is `Local` to it: it reads the part of that
  stage, fails or replaces it, and leaves all others. So the part of a stage after
  a run is what the calls of that stage alone make of it, in whatever way the other calls
  stand between them, before a statement is set or after.

  Main statements: `apply_local`, every call is local to its stage; `content_run_filter`,
  a run seen from one stage; `run_of_interleaving`, two runs of the same calls that agree
  within each stage end alike, and every call in them is answered alike.
-/

import SqlClauses.Query.Call

namespace SqlClauses

/-- What a query holds for a stage. -/
def Stage.Content : Stage → Type
  | .head => Option Statement
  | .join => List Join
  | .filter => List Filter
  | .order => List Order
  | .limit => Option Limit

namespace Query

def content (q : Query) : (s : Stage) → s.Content
  | .head => q.statement
  | .join => q.joins
  | .filter => q.filters
  | .order => q.orders
  | .limit => q.limit

def withContent (q : Query) : (s : Stage) → s.Content → Query
  | .head, x => { q with statement := x }
  | .join, x => { q with joins := x }
  | .filter, x => { q with filters := x }
  | .order, x => { q with orders := x }
  | .limit, x => { q with limit := x }

/-- The stage that a call adds to. -/
def Call.stage : Call → Stage
  | .select .. | .insert .. | .insertRow .. | .update .. | .updateRow .. | .delete _ | .truncate _ => .head
  | .aggregate .. | .fulltext .. | .subquery .. => .head
  | .compare .. | .between .. | .search .. => .filter
  | .join .. => .join
  | .order _ => .order
  | .limit _ => .limit

/-- Whether a call succeeds, and why it does not. -/
def verdict (q : Query) (c : Call) : Except Error Unit := (q.apply c).map fun _ => ()

/-- The calls of a run, each with its verdict. -/
def verdicts : Query → List Call → List (Call × Except Error Unit)
  | _, [] => []
  | q, c :: cs => (c, q.verdict c) :: (q.after c).verdicts cs

/-! ## Parts of a query -/

@[simp] theorem content_withContent (q : Query) (s : Stage) (x : s.Content) : (q.withContent s x).content s = x := by
  cases s <;> rfl

@[simp] theorem withContent_content (q : Query) (s : Stage) : q.withContent s (q.content s) = q := by
  obtain ⟨statement, filters, joins, orders, limit, stored⟩ := q
  cases s <;> rfl

theorem content_withContent_of_ne (q : Query) {s t : Stage} (x : s.Content) (h : t ≠ s) :
    (q.withContent s x).content t = q.content t := by
  cases s <;> cases t <;> first | exact absurd rfl h | rfl

@[simp] theorem stored_withContent (q : Query) (s : Stage) (x : s.Content) :
    (q.withContent s x).stored = q.stored := by
  cases s <;> rfl

/-- The parts and the stored SQL are all there is. -/
theorem eq_of_content {q p : Query} (h : ∀ s, q.content s = p.content s) (hs : q.stored = p.stored) : q = p := by
  obtain ⟨statement, filters, joins, orders, limit, stored⟩ := q
  obtain ⟨statement', filters', joins', orders', limit', stored'⟩ := p
  obtain rfl : statement = statement' := h .head
  obtain rfl : filters = filters' := h .filter
  obtain rfl : joins = joins' := h .join
  obtain rfl : orders = orders' := h .order
  obtain rfl : limit = limit' := h .limit
  obtain rfl : stored = stored' := hs
  rfl

/-! ## Calls are local -/

/-- What `f` does, and whether it fails, depends on the part for `s`, and it changes nothing else. -/
def Local (s : Stage) (f : Query → Except Error Query) : Prop :=
  ∃ g : s.Content → Except Error s.Content, ∀ q, f q = (g (q.content s)).map (q.withContent s)

theorem Local.error (s : Stage) (e : Error) : Local s fun _ => .error e := ⟨fun _ => .error e, fun _ => rfl⟩

/-- A check that does not look at the query may come first. -/
theorem Local.bind {s : Stage} {α : Type} {f : α → Query → Except Error Query} (x : Except Error α)
    (h : ∀ a, Local s (f a)) : Local s fun q => x >>= fun a => f a q := by
  cases x with
  | error e => exact Local.error s e
  | ok a => exact h a

/-- Enough that `f` does to a query what it does to the one that has nothing but this part. -/
theorem Local.of_alone {s : Stage} {f : Query → Except Error Query}
    (h : ∀ q, f q = ((f ((∅ : Query).withContent s (q.content s))).map (·.content s)).map (q.withContent s)) :
    Local s f :=
  ⟨fun x => (f ((∅ : Query).withContent s x)).map (·.content s), h⟩

theorem setHead_local (st : Statement) : Local .head (·.setHead st) := by
  refine Local.of_alone fun q => ?_
  obtain ⟨_ | current, filters, joins, orders, limit, stored⟩ := q
  · rfl
  · rfl

theorem setUpdate_local (table : String) (assignments : List (Column × Value)) :
    Local .head (·.setUpdate table assignments) := by
  unfold setUpdate
  cases assignments.isEmpty
  · exact setHead_local _
  · exact Local.error _ _

theorem addKeyOn_local (table : String) (key : Key) : Local .head (·.addKeyOn table key) := by
  refine Local.of_alone fun q => ?_
  obtain ⟨_ | current, filters, joins, orders, limit, stored⟩ := q
  · rfl
  · cases current with
    | select t keys =>
      by_cases h : t = table
      · simp only [addKeyOn, withContent, content, h, if_true]
        rfl
      · simp only [addKeyOn, withContent, content, h, if_false]
        rfl
    | _ => rfl

theorem addKey_local (feature : String) (key : Key) : Local .head (·.addKey feature key) := by
  refine Local.of_alone fun q => ?_
  obtain ⟨_ | current, filters, joins, orders, limit, stored⟩ := q
  · rfl
  · cases current <;> rfl

theorem addFilter_local (link : Link) (p : Predicate) : Local .filter (·.addFilter link p) := by
  refine Local.of_alone fun q => ?_
  obtain ⟨statement, _ | ⟨f, fs⟩, joins, orders, limit, stored⟩ := q
  · cases link <;> rfl
  · cases link <;> rfl

theorem join_local (side : JoinSide) (table key : String) (target : Column) (operator : Operator) :
    Local .join (·.join side table key target operator) := by
  refine Local.bind _ fun _ => Local.bind _ fun _ => Local.bind _ fun _ => ?_
  exact ⟨fun (js : List Join) => .ok (js ++ [⟨side, table, Column.ofText key, target, operator⟩]), fun _ => rfl⟩

theorem select_local (table : String) (keys names : List String) : Local .head (·.select table keys names) := by
  refine Local.bind _ fun _ => ?_
  by_cases h : names ≠ [] ∧ names.length ≠ keys.length
  · simp only [if_pos h]
    exact Local.error _ _
  · simp only [if_neg h]
    exact Local.bind _ fun _ => setHead_local _

theorem between_local (link : Link) (column : Column) (lo hi : Int64) :
    Local .filter (·.between link column lo hi) := by
  unfold between
  by_cases h : lo < hi
  · simp only [if_pos h]
    exact Local.bind _ fun _ => addFilter_local _ _
  · simp only [if_neg h]
    exact Local.error _ _

theorem apply_local (c : Call) : Local c.stage (·.apply c) := by
  cases c with
  | select => exact select_local _ _ _
  | insert | insertRow => exact Local.bind _ fun _ => Local.bind _ fun _ => setHead_local _
  | update | updateRow => exact Local.bind _ fun _ => Local.bind _ fun _ => setUpdate_local _ _
  | delete | truncate => exact Local.bind _ fun _ => setHead_local _
  | aggregate =>
    simp only [apply_aggregate]
    exact Local.bind _ fun _ => Local.bind _ fun _ => Local.bind _ fun _ => addKeyOn_local _ _
  | fulltext => exact Local.bind _ fun _ => Local.bind _ fun _ => addKey_local _ _
  | subquery => exact Local.bind _ fun _ => addKey_local _ _
  | compare => exact Local.bind _ fun _ => addFilter_local _ _
  | between => exact between_local _ _ _ _
  | search => exact Local.bind _ fun _ => addFilter_local _ _
  | join => exact join_local _ _ _ _ _
  | order o => exact ⟨fun (os : List Order) => .ok (os ++ [o]), fun _ => rfl⟩
  | limit l => exact ⟨fun _ => .ok (some l), fun _ => rfl⟩

/-! ## One call -/

/-- A failed call replaces the part of its stage by itself, so every call replaces it by
something, and by the same thing in every query with that part. -/
theorem after_local (c : Call) : ∃ g : c.stage.Content → c.stage.Content,
    ∀ q : Query, q.after c = q.withContent c.stage (g (q.content c.stage)) := by
  obtain ⟨f, hf⟩ := apply_local c
  refine ⟨fun x => match f x with | .ok y => y | .error _ => x, fun q => ?_⟩
  have hq : q.apply c = (f (q.content c.stage)).map (q.withContent c.stage) := hf q
  cases hx : f (q.content c.stage) with
  | error e =>
    rw [hx] at hq
    simp only [after_of_error hq, hx, withContent_content]
  | ok y =>
    rw [hx] at hq
    simp only [after_of_ok hq, hx]

theorem content_after_of_ne (q : Query) {c : Call} {s : Stage} (h : c.stage ≠ s) :
    (q.after c).content s = q.content s := by
  obtain ⟨g, hg⟩ := after_local c
  rw [hg]
  exact content_withContent_of_ne q _ (Ne.symm h)

theorem content_after_congr {q p : Query} {c : Call} (h : q.content c.stage = p.content c.stage) :
    (q.after c).content c.stage = (p.after c).content c.stage := by
  obtain ⟨g, hg⟩ := after_local c
  rw [hg, hg, content_withContent, content_withContent, h]

theorem stored_after (q : Query) (c : Call) : (q.after c).stored = q.stored := by
  obtain ⟨g, hg⟩ := after_local c
  rw [hg, stored_withContent]

theorem verdict_congr {q p : Query} {c : Call} (h : q.content c.stage = p.content c.stage) :
    q.verdict c = p.verdict c := by
  obtain ⟨f, hf⟩ := apply_local c
  have hq : q.apply c = (f (q.content c.stage)).map (q.withContent c.stage) := hf q
  have hp : p.apply c = (f (p.content c.stage)).map (p.withContent c.stage) := hf p
  unfold verdict
  rw [hq, hp, h]
  cases f (p.content c.stage) <;> rfl

theorem stored_run (q : Query) (cs : List Call) : (q.run cs).stored = q.stored := by
  induction cs generalizing q with
  | nil => rfl
  | cons c cs ih => rw [run_cons, ih, stored_after]

/-! ## A run seen from one stage -/

/-- Leaving out the calls of the other stages changes neither the part of a stage nor the
verdicts on its own calls. -/
theorem run_filter {q p : Query} {s : Stage} (cs : List Call) (h : q.content s = p.content s) :
    (q.run cs).content s = (p.run (cs.filter (·.stage = s))).content s ∧
      (q.verdicts cs).filter (·.1.stage = s) = p.verdicts (cs.filter (·.stage = s)) := by
  induction cs generalizing q p with
  | nil => exact ⟨h, rfl⟩
  | cons c cs ih =>
    by_cases hc : c.stage = s
    · subst hc
      obtain ⟨hr, hv⟩ := ih (content_after_congr h)
      rw [List.filter_cons_of_pos (by simp)]
      refine ⟨hr, ?_⟩
      simp only [verdicts]
      rw [List.filter_cons_of_pos (by simp), hv, verdict_congr h]
    · obtain ⟨hr, hv⟩ := ih ((content_after_of_ne q hc).trans h)
      rw [List.filter_cons_of_neg (by simpa using hc)]
      refine ⟨hr, ?_⟩
      simp only [verdicts]
      rw [List.filter_cons_of_neg (by simpa using hc), hv]

/-- Calls in any order that keeps the order within each stage: the query after them is the same
in every part, each call has the verdict that its counterpart has, and so rendering gives the
same, its log included. -/
theorem run_of_interleaving (q : Query) {cs ds : List Call}
    (h : ∀ s, cs.filter (·.stage = s) = ds.filter (·.stage = s)) :
    q.run cs = q.run ds ∧
      (∀ s, (q.verdicts cs).filter (·.1.stage = s) = (q.verdicts ds).filter (·.1.stage = s)) ∧
      (q.run cs).render = (q.run ds).render ∧ (q.run cs).renderLogged = (q.run ds).renderLogged := by
  have hrun : q.run cs = q.run ds := by
    refine eq_of_content (fun s => ?_) ?_
    · rw [(run_filter cs rfl).1, (run_filter ds rfl).1, h s]
    · rw [stored_run, stored_run]
  refine ⟨hrun, fun s => ?_, by rw [hrun], by rw [hrun]⟩
  rw [(run_filter cs rfl).2, (run_filter ds rfl).2, h s]

/-- Joins and predicates before any statement, a failing call among them. -/
theorem run_of_interleaving_late_head :
    let join := Call.join .left "b" "a_id" (.bare "id") .eq
    let filter := Call.compare .first (.bare "x") .eq (.uint 1)
    let refused := Call.compare .first (.bare "y") .eq .null
    let head := Call.select "a" [] []
    (∀ s, [join, filter, refused, head].filter (·.stage = s) = [head, filter, refused, join].filter (·.stage = s)) ∧
      (∅ : Query).run [join, filter, refused, head] = (∅ : Query).run [head, filter, refused, join] :=
  have h (s : Stage) : _ := by cases s <;> rfl
  ⟨h, (run_of_interleaving ∅ h).1⟩

end Query

end SqlClauses
