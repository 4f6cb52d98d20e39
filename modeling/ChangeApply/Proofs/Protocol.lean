import ChangeApply.Proofs.Exchanges

set_option autoImplicit false

namespace ChangeApply

open Exchange (acquired opened)

def requestsFor (statements : List Statement) : List Request :=
  statements.map fun statement => .execute statement.sent

def executed (exchanges : List Exchange) : List Request :=
  (exchanges.filter fun exchange => exchange.kind = .execute).map Exchange.request

def Refuses (kinds : List Request.Kind) (exchanges : List Exchange) : Prop :=
  ∃ exchange ∈ exchanges, exchange.kind ∈ kinds ∧ exchange.granted = false

def HoldsOneConnection (exchanges : List Exchange) : Prop :=
  (∃ failure, exchanges = [⟨.acquire, .error failure⟩]) ∨
    ∃ answer middle given, exchanges = acquired answer :: middle ++ [⟨.release, given⟩] ∧
      ∀ between ∈ middle, between.kind ≠ .acquire ∧ between.kind ≠ .release

def SendsInOrder (statements : List Statement) (exchanges : List Exchange) : Prop :=
  executed exchanges <+: requestsFor statements ∧
    exchanges.Pairwise fun earlier later => earlier.kind = .execute → earlier.granted = false → later.kind ≠ .execute

structure Orderly (statements : List Statement) (exchanges : List Exchange) (ok : Bool) : Prop where
  one_connection : HoldsOneConnection exchanges
  in_order : SendsInOrder statements exchanges
  succeeds_iff : ok = true ↔ ¬ Refuses [.acquire, .setAutoCommit, .execute, .commit] exchanges
  sends_all : ok = true → executed exchanges = requestsFor statements

structure KeepsTransaction (statements : List Statement) (exchanges : List Exchange) : Prop where
  opens_first : ∀ before sent after, exchanges = before ++ sent :: after → sent.kind = .execute →
    ∃ opening ∈ before, opening.request = .setAutoCommit false ∧ opening.granted = true
  commits_last : ∀ before committing after, exchanges = before ++ committing :: after → committing.kind = .commit →
    executed before = requestsFor statements ∧ ∀ earlier ∈ before, earlier.granted = true
  asks_commit : ¬ Refuses [.acquire, .setAutoCommit, .execute] exchanges →
    exchanges.countP (fun exchange => exchange.kind = .commit) = 1
  rolls_back : Refuses [.setAutoCommit, .execute, .commit] exchanges →
    exchanges.countP (fun exchange => exchange.kind = .rollback) = 1
  keeps : ¬ Refuses [.setAutoCommit, .execute, .commit] exchanges →
    exchanges.countP (fun exchange => exchange.kind = .rollback) = 0

namespace Sending

variable {statements : List Statement} {sent : List Exchange} {all : Bool}

theorem kind_eq (sending : Sending statements sent all) : ∀ exchange ∈ sent, exchange.kind = .execute := by
  induction sending with
  | finished => simp
  | refused statement rest failure => simp [Request.kind]
  | granted statement rest touched later all _ ih => simpa [Request.kind] using ih

theorem executed_eq (sending : Sending statements sent all) : executed sent = sent.map Exchange.request := by
  rw [executed, List.filter_eq_self.mpr]
  simpa using sending.kind_eq

theorem requests_prefix (sending : Sending statements sent all) :
    executed sent <+: requestsFor statements ∧ (all = true → executed sent = requestsFor statements) := by
  rw [sending.executed_eq]
  induction sending with
  | finished => simp [requestsFor]
  | refused statement rest failure => simp [requestsFor, List.cons_prefix_cons]
  | granted statement rest touched later all sent ih => simpa [requestsFor, List.cons_prefix_cons] using ih

theorem granted_before (sending : Sending statements sent all) :
    sent.Pairwise fun earlier _ => earlier.granted = true := by
  induction sending with
  | finished => exact .nil
  | refused statement rest failure => exact List.pairwise_singleton _ _
  | granted statement rest touched later all sent ih => exact .cons (fun _ _ => rfl) ih

theorem all_iff (sending : Sending statements sent all) :
    all = true ↔ ∀ exchange ∈ sent, exchange.granted = true := by
  induction sending with
  | finished => simp
  | refused statement rest failure => simp [Exchange.granted, Except.isOk, Except.toBool]
  | granted statement rest touched later all sent ih =>
    rw [List.forall_mem_cons, ← ih]
    exact (and_iff_right rfl).symm

end Sending

theorem executed_append (first second : List Exchange) : executed (first ++ second) = executed first ++ executed second := by
  simp [executed]

theorem refuses_cons (kinds : List Request.Kind) (exchange : Exchange) (rest : List Exchange) :
    Refuses kinds (exchange :: rest) ↔ (exchange.kind ∈ kinds ∧ exchange.granted = false) ∨ Refuses kinds rest := by
  simp [Refuses]

theorem refuses_append (kinds : List Request.Kind) (first second : List Exchange) :
    Refuses kinds (first ++ second) ↔ Refuses kinds first ∨ Refuses kinds second := by
  simp [Refuses, or_and_right, exists_or]

theorem refuses_held (kinds : List Request.Kind) (unheeded : .release ∉ kinds) (answer : Request.acquire.Answer)
    (middle : List Exchange) (given : Request.release.Reply) :
    Refuses kinds (acquired answer :: middle ++ [⟨.release, given⟩]) ↔ Refuses kinds middle := by
  have released : ¬ Refuses kinds [⟨.release, given⟩] := by simp [Refuses, Request.kind, unheeded]
  rw [List.cons_append, refuses_cons, refuses_append, or_iff_left released]
  simp

structure Worked (statements : List Statement) (middle : List Exchange) (ok : Bool) : Prop where
  inside : ∀ exchange ∈ middle, exchange.kind ≠ .acquire ∧ exchange.kind ≠ .release
  in_order : SendsInOrder statements middle
  succeeds_iff : ok = true ↔ ¬ Refuses [.setAutoCommit, .execute, .commit] middle
  sends_all : ok = true → executed middle = requestsFor statements

namespace Sending

variable {statements : List Statement} {sent : List Exchange} {all : Bool}

theorem in_order (sending : Sending statements sent all) : SendsInOrder statements sent := by
  refine ⟨sending.requests_prefix.1, sending.granted_before.imp fun granted _ refused => ?_⟩
  rw [granted] at refused
  cases refused

theorem refuses_iff (sending : Sending statements sent all) (kinds : List Request.Kind) (asked : .execute ∈ kinds) :
    Refuses kinds sent ↔ all = false := by
  rw [← Bool.not_eq_true, sending.all_iff, Refuses, Classical.not_forall]
  simp only [exists_prop, Classical.not_forall, Bool.not_eq_true]
  refine exists_congr fun exchange => ?_
  constructor
  · rintro ⟨member, -, refused⟩
    exact ⟨member, refused⟩
  · rintro ⟨member, refused⟩
    exact ⟨member, by rwa [sending.kind_eq exchange member], refused⟩

theorem worked (sending : Sending statements sent all) : Worked statements sent all where
  inside exchange member := by simp [sending.kind_eq exchange member]
  in_order := sending.in_order
  succeeds_iff := by simp [sending.refuses_iff [.setAutoCommit, .execute, .commit] (by simp)]
  sends_all := sending.requests_prefix.2

end Sending

section

variable {statements : List Statement} {front sent back : List Exchange}

theorem executed_within (front_free : ∀ exchange ∈ front, exchange.kind ≠ .execute)
    (back_free : ∀ exchange ∈ back, exchange.kind ≠ .execute) : executed (front ++ sent ++ back) = executed sent := by
  have none (exchanges : List Exchange) (free : ∀ exchange ∈ exchanges, exchange.kind ≠ .execute) :
      executed exchanges = [] := by
    simpa [executed] using free
  rw [executed_append, executed_append, none front front_free, none back back_free, List.nil_append, List.append_nil]

theorem SendsInOrder.within (front_free : ∀ exchange ∈ front, exchange.kind ≠ .execute)
    (back_free : ∀ exchange ∈ back, exchange.kind ≠ .execute) (in_order : SendsInOrder statements sent) :
    SendsInOrder statements (front ++ sent ++ back) := by
  have apart (exchanges : List Exchange) (free : ∀ exchange ∈ exchanges, exchange.kind ≠ .execute) :
      exchanges.Pairwise fun earlier later => earlier.kind = .execute → earlier.granted = false → later.kind ≠ .execute :=
    List.pairwise_of_forall_mem_list fun earlier member _ _ sent => absurd sent (free earlier member)
  refine ⟨(executed_within front_free back_free).symm ▸ in_order.1, ?_⟩
  rw [List.pairwise_append, List.pairwise_append]
  refine ⟨⟨apart front front_free, in_order.2, ?_⟩, apart back back_free, ?_⟩
  · exact fun earlier member _ _ sent => absurd sent (front_free earlier member)
  · exact fun _ _ later member _ _ => back_free later member

end

-- Once a transaction is open, its statements are followed by a commit, a rollback or both.
theorem Sending.worked_within {statements : List Statement} {sent back : List Exchange} {all ok : Bool}
    (sending : Sending statements sent all) (answer : (Request.setAutoCommit false).Answer)
    (back_kinds : ∀ exchange ∈ back, exchange.kind = .commit ∨ exchange.kind = .rollback)
    (succeeds_iff : ok = true ↔ all = true ∧ ¬ Refuses [.setAutoCommit, .execute, .commit] back) :
    Worked statements ([opened answer] ++ sent ++ back) ok := by
  have front_free : ∀ exchange ∈ [opened answer], exchange.kind ≠ .execute := by simp
  have back_free : ∀ exchange ∈ back, exchange.kind ≠ .execute := by
    intro exchange member
    rcases back_kinds exchange member with same | same <;> simp [same]
  refine ⟨?_, sending.in_order.within front_free back_free, ?_, fun done => ?_⟩
  · rw [List.forall_mem_append, List.forall_mem_append]
    refine ⟨⟨by simp, sending.worked.inside⟩, fun exchange member => ?_⟩
    rcases back_kinds exchange member with same | same <;> simp [same]
  · have unrefused : ¬ Refuses [.setAutoCommit, .execute, .commit] [opened answer] := by simp [Refuses]
    rw [succeeds_iff, refuses_append, refuses_append, sending.refuses_iff _ (by simp), or_iff_right unrefused, not_or,
      Bool.not_eq_false]
  · rw [executed_within front_free back_free]
    exact sending.requests_prefix.2 (succeeds_iff.mp done).1

theorem Transacting.worked {statements : List Statement} {middle : List Exchange} {ok : Bool}
    (transacting : Transacting statements middle ok) : Worked statements middle ok := by
  cases transacting with
  | unopened failure undone =>
    refine ⟨?_, ⟨List.nil_prefix, ?_⟩, ?_, ?_⟩
    · simp [Request.kind]
    · simp [Request.kind]
    · simp [Refuses, Request.kind]
    · simp
  | broken answer sent undone sending =>
    refine sending.worked_within answer ?_ ?_
    · simp [Request.kind]
    · simp
  | uncommitted answer sent failure undone sending =>
    refine sending.worked_within answer ?_ ?_
    · simp [Request.kind]
    · simp [Refuses, Request.kind]
  | committed answer sent kept sending =>
    refine sending.worked_within answer ?_ ?_
    · simp [Request.kind]
    · simp [Refuses, Request.kind]

theorem Holding.orderly {statements : List Statement} {work : List Exchange → Bool → Prop} {exchanges : List Exchange}
    {ok : Bool} (works : ∀ middle ok, work middle ok → Worked statements middle ok)
    (holding : Holding work exchanges ok) : Orderly statements exchanges ok := by
  cases holding with
  | turnedAway failure =>
    refine ⟨.inl ⟨failure, rfl⟩, ⟨List.nil_prefix, List.pairwise_singleton _ _⟩, ?_, ?_⟩
    · simp [Refuses, Request.kind]
    · simp
  | held answer middle ok given worked =>
    obtain ⟨inside, in_order, succeeds_iff, sends_all⟩ := works middle ok worked
    have front_free : ∀ exchange ∈ [acquired answer], exchange.kind ≠ .execute := by simp
    have back_free : ∀ exchange ∈ [Exchange.mk .release given], exchange.kind ≠ .execute := by simp [Request.kind]
    refine ⟨.inr ⟨answer, middle, given, rfl, inside⟩, in_order.within front_free back_free, ?_, fun done => ?_⟩
    · rw [succeeds_iff, refuses_held _ (by decide) answer middle given]
      refine not_congr (exists_congr fun exchange => and_congr_right fun member => and_congr_left fun _ => ?_)
      exact ⟨List.mem_cons_of_mem _, fun asked => (List.mem_cons.mp asked).resolve_left (inside exchange member).1⟩
    · exact (executed_within front_free back_free).trans (sends_all done)

section

variable {kind : Request.Kind} {front back before after : List Exchange} {here found : Exchange}

theorem found_at (same : front ++ here :: back = before ++ found :: after)
    (front_free : ∀ exchange ∈ front, exchange.kind ≠ kind) (back_free : ∀ exchange ∈ back, exchange.kind ≠ kind)
    (of_kind : found.kind = kind) : before = front := by
  rcases List.append_eq_append_iff.mp same with ⟨more, rfl, rest⟩ | ⟨more, rfl, rest⟩
  · cases more with
    | nil => exact List.append_nil front
    | cons c more =>
      rw [List.cons_append, List.cons.injEq] at rest
      exact absurd of_kind (back_free found (rest.2 ▸ by simp))
  · cases more with
    | nil => exact (List.append_nil before).symm
    | cons c more =>
      rw [List.cons_append, List.cons.injEq] at rest
      exact absurd of_kind (front_free found (rest.1 ▸ by simp))

theorem not_found (exchanges : List Exchange) (free : ∀ exchange ∈ exchanges, exchange.kind ≠ kind)
    (same : exchanges = before ++ found :: after) : found.kind ≠ kind :=
  free found (same ▸ by simp)

end

namespace Sending

variable {statements : List Statement} {sent : List Exchange} {all : Bool} (start : Request.acquire.Answer)
  (answer : (Request.setAutoCommit false).Answer)

theorem free_of (sending : Sending statements sent all) (kind : Request.Kind) (other : kind ≠ .execute) :
    ∀ exchange ∈ sent, exchange.kind ≠ kind :=
  fun exchange member => sending.kind_eq exchange member ▸ other.symm

theorem count_other (sending : Sending statements sent all) (kind : Request.Kind) (other : kind ≠ .execute) :
    sent.countP (fun exchange => exchange.kind = kind) = 0 := by
  rw [List.countP_eq_zero]
  simpa using sending.free_of kind other

theorem refuses_inside (sending : Sending statements sent false) (kinds : List Request.Kind) (asked : .execute ∈ kinds)
    (front back : List Exchange) : Refuses kinds (front ++ sent ++ back) := by
  rw [refuses_append, refuses_append, sending.refuses_iff kinds asked]
  exact .inl (.inr rfl)

theorem opening_before (rest before : List Exchange) (found : Exchange) (after : List Exchange)
    (same : acquired start :: opened answer :: rest = before ++ found :: after) (of_kind : found.kind = .execute) :
    ∃ opening ∈ before, opening.request = .setAutoCommit false ∧ opening.granted = true := by
  match before with
  | [] =>
    cases same
    cases of_kind
  | [first] =>
    cases same
    cases of_kind
  | first :: second :: more =>
    simp only [List.cons_append, List.cons.injEq] at same
    exact ⟨second, by simp, same.2.1 ▸ ⟨rfl, rfl⟩⟩

theorem all_before_commit (sending : Sending statements sent true) (reply : Request.commit.Reply)
    (back before : List Exchange) (found : Exchange) (after : List Exchange)
    (back_free : ∀ exchange ∈ back, exchange.kind ≠ .commit)
    (same : acquired start :: opened answer :: sent ++ ⟨.commit, reply⟩ :: back = before ++ found :: after)
    (of_kind : found.kind = .commit) :
    executed before = requestsFor statements ∧ ∀ earlier ∈ before, earlier.granted = true := by
  have front_free : ∀ exchange ∈ acquired start :: opened answer :: sent, exchange.kind ≠ .commit := by
    rw [List.forall_mem_cons, List.forall_mem_cons]
    exact ⟨by simp, by simp, sending.free_of .commit (by decide)⟩
  rw [found_at same front_free back_free of_kind]
  constructor
  · exact sending.requests_prefix.2 rfl
  · rw [List.forall_mem_cons, List.forall_mem_cons]
    exact ⟨rfl, rfl, sending.all_iff.mp rfl⟩

end Sending

theorem Transacting.keeps_transaction {statements : List Statement} {middle : List Exchange} {ok : Bool}
    (transacting : Transacting statements middle ok) (start : Request.acquire.Answer) (given : Request.release.Reply) :
    KeepsTransaction statements (acquired start :: middle ++ [⟨.release, given⟩]) := by
  have refused_iff : Refuses [.setAutoCommit, .execute, .commit] (acquired start :: middle ++ [⟨.release, given⟩]) ↔
      ok = false := by
    rw [refuses_held _ (by decide), ← Bool.not_eq_true, transacting.worked.succeeds_iff, Classical.not_not]
  cases transacting with
  | unopened failure undone =>
    refine ⟨fun before sent after same => ?_, fun before committing after same => ?_, fun unrefused => ?_, fun _ => ?_,
      fun unrefused => ?_⟩
    · exact fun of_kind => absurd of_kind (not_found _ (by simp [Request.kind]) same)
    · exact fun of_kind => absurd of_kind (not_found _ (by simp [Request.kind]) same)
    · exact absurd (by simp [Refuses, Request.kind]) unrefused
    · simp [Request.kind]
    · exact absurd (refused_iff.mpr rfl) unrefused
  | broken answer sent undone sending =>
    refine ⟨?_, fun before committing after same of_kind => ?_, fun unrefused => ?_, fun _ => ?_, fun unrefused => ?_⟩
    · exact Sending.opening_before start answer _
    · have free : ∀ exchange ∈ acquired start :: opened answer :: (sent ++ [⟨.rollback, undone⟩, ⟨.release, given⟩]),
          exchange.kind ≠ .commit := by
        rw [List.forall_mem_cons, List.forall_mem_cons, List.forall_mem_append]
        exact ⟨by simp, by simp, sending.free_of .commit (by decide), by simp [Request.kind]⟩
      simp only [List.cons_append, List.append_assoc, List.nil_append] at same
      exact absurd of_kind (not_found _ free same)
    · refine absurd ?_ unrefused
      have within := sending.refuses_inside [.acquire, .setAutoCommit, .execute] (by decide)
        [acquired start, opened answer] [⟨.rollback, undone⟩, ⟨.release, given⟩]
      simpa only [List.cons_append, List.append_assoc, List.nil_append] using within
    · simp [Request.kind, sending.count_other]
    · exact absurd (refused_iff.mpr rfl) unrefused
  | uncommitted answer sent failure undone sending =>
    refine ⟨?_, fun before committing after same => ?_, fun _ => ?_, fun _ => ?_, fun unrefused => ?_⟩
    · exact Sending.opening_before start answer _
    · refine sending.all_before_commit start answer (.error failure) [⟨.rollback, undone⟩, ⟨.release, given⟩] before
        committing after (by simp [Request.kind]) ?_
      simpa only [List.cons_append, List.append_assoc, List.nil_append] using same
    · simp [Request.kind, sending.count_other]
    · simp [Request.kind, sending.count_other]
    · exact absurd (refused_iff.mpr rfl) unrefused
  | committed answer sent kept sending =>
    refine ⟨?_, fun before committing after same => ?_, fun _ => ?_, fun refused => ?_, fun _ => ?_⟩
    · exact Sending.opening_before start answer _
    · refine sending.all_before_commit start answer (.ok kept) [⟨.release, given⟩] before committing after
        (by simp [Request.kind]) ?_
      simpa only [List.cons_append, List.append_assoc, List.nil_append] using same
    · simp [Request.kind, sending.count_other]
    · cases refused_iff.mp refused
    · simp [Request.kind, sending.count_other]

theorem Holding.keeps_transaction {statements : List Statement} {exchanges : List Exchange} {ok : Bool}
    (holding : Holding (Transacting statements) exchanges ok) : KeepsTransaction statements exchanges := by
  cases holding with
  | turnedAway failure =>
    refine ⟨fun before sent after same of_kind => ?_, fun before committing after same of_kind => ?_, ?_, ?_, ?_⟩
    · exact absurd of_kind (not_found _ (by simp [Request.kind]) same)
    · exact absurd of_kind (not_found _ (by simp [Request.kind]) same)
    · simp [Refuses, Request.kind]
    · simp [Refuses, Request.kind]
    · simp [Request.kind]
  | held answer middle ok given transacting => exact transacting.keeps_transaction answer given

theorem Holding.kinds {work : List Exchange → Bool → Prop} {exchanges : List Exchange} {ok : Bool}
    (kinds : List Request.Kind) (works : ∀ middle ok, work middle ok → ∀ exchange ∈ middle, exchange.kind ∈ kinds)
    (holding : Holding work exchanges ok) : ∀ exchange ∈ exchanges, exchange.kind ∈ .acquire :: .release :: kinds := by
  cases holding with
  | turnedAway failure => simp [Request.kind]
  | held answer middle ok given worked =>
    rw [List.cons_append, List.forall_mem_cons, List.forall_mem_append]
    refine ⟨by simp, fun exchange member => ?_, by simp [Request.kind]⟩
    exact List.mem_cons_of_mem _ (List.mem_cons_of_mem _ (works middle _ worked exchange member))

theorem Holding.sends_only {statements : List Statement} {exchanges : List Exchange} {ok : Bool}
    (holding : Holding (Sending statements) exchanges ok) :
    ∀ exchange ∈ exchanges, exchange.kind ∈ [.acquire, .release, .execute] :=
  holding.kinds [.execute] fun _ _ sending exchange member =>
    List.mem_singleton.mpr (sending.kind_eq exchange member)

structure LooksOnce (query : String) (exchanges : List Exchange) (ok : Bool) : Prop where
  one_connection : HoldsOneConnection exchanges
  only_asks : ∀ exchange ∈ exchanges, exchange.request ∈ [.acquire, .query query, .release]
  asks_once : ¬ Refuses [.acquire] exchanges → exchanges.countP (fun exchange => exchange.kind = .query) = 1
  succeeds_iff : ok = true ↔ ¬ Refuses [.acquire, .query] exchanges

theorem Holding.looks_once {query : String} {exchanges : List Exchange} {ok : Bool}
    (holding : Holding (Asking query) exchanges ok) : LooksOnce query exchanges ok := by
  cases holding with
  | turnedAway failure =>
    exact ⟨.inl ⟨failure, rfl⟩, by simp, by simp [Refuses, Request.kind], by simp [Refuses, Request.kind]⟩
  | held answer middle ok given asking =>
    obtain ⟨reply, rfl, rfl⟩ := asking
    refine ⟨.inr ⟨answer, _, given, rfl, by simp [Request.kind]⟩, by simp [acquired], fun _ => by simp [Request.kind], ?_⟩
    rw [refuses_held _ (by decide)]
    simp [Refuses, Request.kind, Exchange.granted]

inductive Call where
  | single (task : String) (statement : Statement)
  | atomic (task : String) (statements : List Statement)
  | dispatch (task : String) (ddl : DdlStatement)

namespace Call

def dialogue : Call → Dialogue Bool
  | .single task statement => Delivery.single task statement
  | .atomic task statements => Delivery.atomic task statements
  | .dispatch task ddl => Delivery.sendDdl task ddl

def statements : Call → List Statement
  | .single _ statement => [statement]
  | .atomic _ statements => statements
  | .dispatch _ ddl => Delivery.ddlStatements ddl

def transactional : Call → Prop
  | .atomic _ _ => True
  | _ => False

end Call

theorem calls_keep_the_connection_protocol (oracle : Oracle) :
    (∀ call : Call,
      let made := call.dialogue.answered oracle []
      Orderly call.statements made.exchanges made.result ∧
        (call.transactional → KeepsTransaction call.statements made.exchanges) ∧
        (¬ call.transactional → ∀ exchange ∈ made.exchanges, exchange.kind ∈ [.acquire, .release, .execute])) ∧
      ∀ query token : String,
        let made := (JobWatch.poll query token).answered oracle []
        LooksOnce query made.exchanges made.result.isOk := by
  refine ⟨fun call => ?_, fun query token => (JobWatch.poll_any_reply query token oracle).looks_once⟩
  cases call with
  | single task statement =>
    have holding := Delivery.single_any_reply task statement oracle
    exact ⟨holding.orderly fun _ _ sending => sending.worked, False.elim, fun _ => holding.sends_only⟩
  | atomic task statements =>
    have holding := Delivery.atomic_any_reply task statements oracle
    exact ⟨holding.orderly fun _ _ work => work.worked, fun _ => holding.keeps_transaction, fun plain => absurd trivial plain⟩
  | dispatch task ddl =>
    have holding := Delivery.ddl_any_reply task ddl oracle
    exact ⟨holding.orderly fun _ _ sending => sending.worked, False.elim, fun _ => holding.sends_only⟩

end ChangeApply
