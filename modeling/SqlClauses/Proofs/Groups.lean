/-
  SqlClauses.Proofs.Groups — the WHERE clause read from left to right.

  The clause is written group by group. Here it is read filter by filter: the first filter
  opens the clause, and each one after it stands behind a text that depends only on how it
  is linked. So a filter added at the end changes nothing before the last parenthesis.

  Main statements: `groups_cons_of_opensGroup` and `groups_cons_of_not_opensGroup`, what
  one filter more at the front does to the groups; `clause_cons`, the clause filter by
  filter.
-/

import Mathlib.Data.List.SplitBy
import SqlClauses.Filter

namespace SqlClauses.Filter

/-- What stands between a filter and those before it. -/
def separator : Link → String
  | .first | .or => ") OR ("
  | .and => " AND "

/-- The filters after the first, each behind its separator. -/
def linkedSql : List Filter → String
  | [] => ""
  | f :: fs => separator f.link ++ f.predicate.sql ++ linkedSql fs

/-! ## Groups -/

theorem groups_cons_of_opensGroup (f : Filter) {g : Filter} (h : g.link.opensGroup = true) (fs : List Filter) :
    groups (f :: g :: fs) = [f] :: groups (g :: fs) := by
  have := List.splitBy_append_cons (r := fun _ next : Filter => !next.link.opensGroup) (l := [f]) (a := g) fs
    (by simp [h])
  exact this

theorem groups_cons_of_not_opensGroup (f : Filter) {g : Filter} (h : g.link.opensGroup = false) (fs : List Filter) :
    ∃ t gs, groups (g :: fs) = (g :: t) :: gs ∧ groups (f :: g :: fs) = (f :: g :: t) :: gs := by
  cases hG : groups (g :: fs) with
  | nil => exact absurd (List.splitBy_eq_nil.mp hG) (by simp)
  | cons m gs =>
    obtain ⟨hflat, hne, hchain, hcut⟩ := List.splitBy_eq_iff.mp hG
    cases m with
    | nil => exact absurd (List.mem_cons_self ..) hne
    | cons g' t =>
      have hg : g = g' ∧ fs = t ++ gs.flatten := by simpa using hflat
      obtain ⟨rfl, hfs⟩ := hg
      refine ⟨t, gs, rfl, List.splitBy_eq_iff.mpr ⟨?_, ?_, ?_, ?_⟩⟩
      · simp [hfs]
      · simpa using hne
      · intro m hm
        rcases List.mem_cons.mp hm with rfl | hm
        · exact List.isChain_cons_cons.mpr ⟨by simp [h], hchain _ (List.mem_cons_self ..)⟩
        · exact hchain m (List.mem_cons_of_mem _ hm)
      · cases gs with
        | nil => exact List.isChain_singleton _
        | cons m' gs =>
          obtain ⟨⟨_, hb, hr⟩, hrest⟩ := List.isChain_cons_cons.mp hcut
          exact List.isChain_cons_cons.mpr ⟨⟨by simp, hb, hr⟩, hrest⟩

/-! ## The clause -/

theorem groupSql_cons (f g : Filter) (t : List Filter) :
    groupSql (f :: g :: t) =
      "(" ++ (f.predicate.sql ++ " AND " ++ (" AND ".intercalate ((g :: t).map (·.predicate.sql)) ++ ")")) := by
  simp only [groupSql, List.map_cons, String.intercalate_cons_cons, String.append_assoc]

theorem separator_eq (link : Link) : separator link = if link.opensGroup then ")" ++ " OR " ++ "(" else " AND " := by
  cases link <;> rfl

theorem groupsSql_cons (f : Filter) (fs : List Filter) :
    " OR ".intercalate ((groups (f :: fs)).map groupSql) = "(" ++ (f.predicate.sql ++ linkedSql fs ++ ")") := by
  induction fs generalizing f with
  | nil => simp [groups, List.splitBy, List.splitBy.loop, groupSql, linkedSql, String.append_assoc]
  | cons g fs ih =>
    cases h : g.link.opensGroup with
    | true =>
      have hsep : separator g.link = ")" ++ " OR " ++ "(" := by
        rw [separator_eq, h, if_pos rfl]
      rw [groups_cons_of_opensGroup f h, List.map_cons,
        String.intercalate_cons_of_ne_nil (by simp [groups]), ih, linkedSql, hsep]
      simp only [groupSql, List.map_cons, List.map_nil, String.intercalate_singleton, String.append_assoc]
    | false =>
      have hsep : separator g.link = " AND " := by
        rw [separator_eq, h, if_neg Bool.false_ne_true]
      obtain ⟨t, gs, hg, hf⟩ := groups_cons_of_not_opensGroup f h fs
      have ih := ih g
      rw [hg, List.map_cons, groupSql, String.append_assoc, String.intercalate_cons_append,
        String.append_right_inj] at ih
      rw [hf, List.map_cons, groupSql_cons, String.intercalate_cons_append, String.intercalate_cons_append, ih,
        linkedSql, hsep]
      simp only [String.append_assoc]

theorem clause_cons (f : Filter) (fs : List Filter) :
    clause (f :: fs) = "WHERE (" ++ f.predicate.sql ++ linkedSql fs ++ ")" := by
  have h : "WHERE (" = "WHERE " ++ "(" := rfl
  rw [clause, if_neg (by simp), groupsSql_cons, h]
  simp only [String.append_assoc]

end SqlClauses.Filter
