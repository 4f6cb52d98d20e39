import ChangeApply.Proofs.Effect

set_option autoImplicit false

/- Rows written into a table whose key keeps its rows apart: each takes the place of the
   row with its key. What is left of a table depends on the rows that are written and on
   their order, and on neither twice. -/
namespace ChangeApply.Layout

variable (layout : Layout)

def Distinct (contents : layout.Contents) : Prop :=
  contents.Pairwise fun first second => layout.conflicts first second = false

def lastOnes : layout.Contents → layout.Contents
  | [] => []
  | new :: later => if later.any (layout.conflicts new) then lastOnes later else new :: lastOnes later

def overwritten (contents news : layout.Contents) : layout.Contents :=
  contents.filter (fun old => !news.any fun new => layout.conflicts new old) ++ layout.lastOnes news

theorem conflicts_iff (new old : Stored layout.columns) :
    layout.conflicts new old = true ↔
      layout.key ≠ [] ∧ ∀ column ∈ layout.key, layout.collation.equal (new.cell column) (old.cell column) = true := by
  simp [conflicts]

theorem conflicts_comm (new old : Stored layout.columns) : layout.conflicts new old = layout.conflicts old new := by
  simp only [conflicts, layout.collation.equal_comm]

theorem conflicts_trans (first second third : Stored layout.columns) (one : layout.conflicts first second = true)
    (other : layout.conflicts second third = true) : layout.conflicts first third = true := by
  rw [conflicts_iff] at one other ⊢
  refine ⟨one.1, fun column member => ?_⟩
  exact layout.collation.equal_trans _ _ _ (one.2 column member) (other.2 column member)

theorem last_ones_sublist (news : layout.Contents) : (layout.lastOnes news).Sublist news := by
  induction news with
  | nil => exact .slnil
  | cons new later ih =>
    rw [lastOnes]
    split
    · exact ih.cons new
    · exact ih.cons_cons new

theorem add_replace (new : Stored layout.columns) (contents : layout.Contents) :
    layout.add .replace new contents = some (layout.put new contents) := rfl

theorem add_plain (new : Stored layout.columns) (contents : layout.Contents)
    (absent : contents.any (layout.conflicts new) = false) : layout.add .plain new contents = some (contents ++ [new]) := by
  simp only [add, absent]

theorem overwritten_cons (contents later : layout.Contents) (new : Stored layout.columns) :
    layout.overwritten contents (new :: later) = layout.overwritten (layout.put new contents) later := by
  have same : (later.any fun other => layout.conflicts other new) = later.any (layout.conflicts new) :=
    List.any_congr rfl fun other => layout.conflicts_comm other new
  rw [overwritten, overwritten, put, List.filter_append, List.filter_filter, lastOnes, List.append_assoc]
  congr 1
  · refine List.filter_congr fun old _ => ?_
    rw [List.any_cons, Bool.not_or, Bool.and_comm]
  · cases displaced : later.any (layout.conflicts new) <;> simp [same, displaced]

theorem foldl_put (news contents : layout.Contents) :
    news.foldl (fun contents new => layout.put new contents) contents = layout.overwritten contents news := by
  induction news generalizing contents with
  | nil => simp [overwritten, lastOnes]
  | cons new later ih => rw [List.foldl_cons, ih, overwritten_cons]

theorem overwritten_perm (news first second : layout.Contents) (same : first.Perm second) :
    (layout.overwritten first news).Perm (layout.overwritten second news) :=
  (same.filter _).append_right _

theorem Distinct.perm {layout : Layout} {first second : layout.Contents} (distinct : layout.Distinct first)
    (same : first.Perm second) : layout.Distinct second :=
  (same.pairwise_iff fun apart => by rwa [layout.conflicts_comm]).mp distinct

theorem Distinct.put {layout : Layout} {contents : layout.Contents} (distinct : layout.Distinct contents)
    (new : Stored layout.columns) : layout.Distinct (layout.put new contents) := by
  refine List.pairwise_append.mpr ⟨distinct.filter _, List.pairwise_singleton _ _, fun old kept other single => ?_⟩
  rw [List.mem_singleton.mp single, layout.conflicts_comm]
  simpa using (List.mem_filter.mp kept).2

theorem Distinct.overwritten {layout : Layout} {contents : layout.Contents} (distinct : layout.Distinct contents)
    (news : layout.Contents) : layout.Distinct (layout.overwritten contents news) := by
  rw [← foldl_put]
  induction news generalizing contents with
  | nil => exact distinct
  | cons new later ih => exact ih (distinct.put new)

-- Each new row has a key, so it takes the place of what it was when written before.
theorem overwritten_again (contents news : layout.Contents) (keyed : ∀ new ∈ news, layout.conflicts new new = true) :
    layout.overwritten (layout.overwritten contents news) news = layout.overwritten contents news := by
  have gone : (layout.lastOnes news).filter (fun old => !news.any fun new => layout.conflicts new old) = [] := by
    refine List.filter_eq_nil_iff.mpr fun old member => ?_
    have written := (layout.last_ones_sublist news).subset member
    simpa using ⟨old, written, keyed old written⟩
  rw [overwritten, overwritten, List.filter_append, gone, List.append_nil, List.filter_filter]
  simp only [Bool.and_self]

theorem in_place_perm (new : Stored layout.columns) (contents : layout.Contents) (distinct : layout.Distinct contents)
    (present : contents.any (layout.conflicts new) = true) :
    (contents.map fun old => if layout.conflicts new old then new else old).Perm (layout.put new contents) := by
  induction contents with
  | nil => cases present
  | cons old rest ih =>
    obtain ⟨apart, distinct⟩ := List.pairwise_cons.mp distinct
    cases same : layout.conflicts new old with
    | true =>
      have others : ∀ other ∈ rest, layout.conflicts new other = false := by
        intro other member
        rw [← Bool.not_eq_true]
        intro also
        have conflict := layout.conflicts_trans old new other (layout.conflicts_comm new old ▸ same) also
        rw [apart other member] at conflict
        cases conflict
      have untouched : (rest.map fun old => if layout.conflicts new old then new else old) = rest := by
        refine (List.map_congr_left fun other member => ?_).trans (List.map_id rest)
        simp [others other member]
      have kept : rest.filter (fun old => !layout.conflicts new old) = rest :=
        List.filter_eq_self.mpr fun other member => by simp [others other member]
      rw [List.map_cons, untouched, put, List.filter_cons, kept]
      simpa [same] using (List.perm_append_singleton new rest).symm
    | false =>
      rw [List.any_cons, same, Bool.false_or] at present
      rw [List.map_cons, put, List.filter_cons]
      simpa [same, put] using (ih distinct present).cons old

theorem upsert_perm (new : Stored layout.columns) (contents : layout.Contents) (distinct : layout.Distinct contents) :
    (layout.upsert new (fun _ => new) contents).Perm (layout.put new contents) := by
  rw [upsert]
  split
  next present => exact layout.in_place_perm new contents distinct present
  next absent =>
    have kept : contents.filter (fun old => !layout.conflicts new old) = contents :=
      List.filter_eq_self.mpr fun old member => by simpa using List.any_eq_false.mp (eq_false_of_ne_true absent) old member
    rw [put, kept]

def Overwrites (statements : List Statement) (news : layout.Contents) : Prop :=
  ∀ contents, layout.Distinct contents → ∃ after,
    layout.runAll statements contents = some after ∧ after.Perm (layout.overwritten contents news)

variable {layout}

theorem Overwrites.nil : layout.Overwrites [] [] := by
  refine fun contents _ => ⟨contents, rfl, ?_⟩
  rw [← layout.foldl_put]
  exact .rfl

theorem Overwrites.append {first second : List Statement} {news later : layout.Contents}
    (one : layout.Overwrites first news) (other : layout.Overwrites second later) :
    layout.Overwrites (first ++ second) (news ++ later) := by
  intro contents distinct
  obtain ⟨middle, ran, perm⟩ := one contents distinct
  obtain ⟨after, finished, perm_after⟩ := other middle ((distinct.overwritten news).perm perm.symm)
  refine ⟨after, ?_, ?_⟩
  · rw [layout.run_all_append, ran]
    exact finished
  · refine perm_after.trans ((layout.overwritten_perm later _ _ perm).trans ?_)
    rw [← layout.foldl_put, ← layout.foldl_put, ← List.foldl_append, layout.foldl_put]

theorem Overwrites.flat_map {α : Type} (write : α → List Statement) (new : α → Stored layout.columns) (items : List α)
    (each : ∀ item ∈ items, layout.Overwrites (write item) [new item]) :
    layout.Overwrites (items.flatMap write) (items.map new) := by
  induction items with
  | nil => exact .nil
  | cons item rest ih =>
    rw [List.forall_mem_cons] at each
    exact each.1.append (ih each.2)

theorem Overwrites.replay {first again : List Statement} {news : layout.Contents} (one : layout.Overwrites first news)
    (other : layout.Overwrites again news) (keyed : ∀ new ∈ news, layout.conflicts new new = true)
    (contents : layout.Contents) (distinct : layout.Distinct contents) :
    ∃ after, layout.runAll first contents = some after ∧ after.Perm (layout.overwritten contents news) ∧
      layout.Distinct after ∧ ∃ final, layout.runAll again after = some final ∧ final.Perm after := by
  obtain ⟨after, ran, perm⟩ := one contents distinct
  have distinct_after : layout.Distinct after := (distinct.overwritten news).perm perm.symm
  obtain ⟨final, ran_again, perm_again⟩ := other after distinct_after
  refine ⟨after, ran, perm, distinct_after, final, ran_again, ?_⟩
  refine perm_again.trans ((layout.overwritten_perm news _ _ perm).trans ?_)
  rw [layout.overwritten_again contents news keyed]
  exact perm.symm

end ChangeApply.Layout
