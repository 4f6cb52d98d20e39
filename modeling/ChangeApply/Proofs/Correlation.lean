import ChangeApply.Ddl.Job
import Mathlib.Data.List.Find

set_option autoImplicit false

/- Finding the job of a DDL statement by its token. The marker of a token occurs in a
   hinted statement where the hint puts it or inside the statement itself, and never
   across the end of the hint. -/
namespace ChangeApply

namespace Text

variable {start rest before after : List Char} {stop : Char}

theorem starts_before_stop (without : stop ∉ start) (starts : start <+: before ++ stop :: after) :
    start <+: before := by
  have stopped : before ++ [stop] <+: before ++ stop :: after := ⟨after, by simp⟩
  rcases List.prefix_or_prefix_of_prefix starts stopped with short | long
  · rcases List.prefix_concat_iff.mp short with whole | short
    · exact absurd (whole ▸ by simp) without
    · exact short
  · exact absurd (long.subset (by simp)) without

theorem starts_at_stop_iff (start_without : stop ∉ start) (before_without : stop ∉ before) :
    start ++ stop :: rest <+: before ++ stop :: after ↔ start = before ∧ rest <+: after := by
  constructor
  · intro starts
    have short := starts_before_stop start_without ((List.prefix_append start (stop :: rest)).trans starts)
    obtain ⟨more, rfl⟩ := short
    rw [List.append_assoc, List.prefix_append_right_inj] at starts
    cases more with
    | nil =>
      rw [List.nil_append, List.cons_prefix_cons] at starts
      exact ⟨(List.append_nil start).symm, starts.2⟩
    | cons c more =>
      rw [List.cons_append, List.cons_prefix_cons] at starts
      exact absurd (starts.1 ▸ by simp) before_without
  · rintro ⟨rfl, follows⟩
    rw [List.prefix_append_right_inj, List.cons_prefix_cons]
    exact ⟨rfl, follows⟩

theorem occurs_at_stop_iff (start_without : stop ∉ start) (before_without : stop ∉ before) :
    start ++ stop :: rest <:+: before ++ stop :: after ↔
      (start <:+ before ∧ rest <+: after) ∨ start ++ stop :: rest <:+: after := by
  induction before with
  | nil =>
    have first : start ++ stop :: rest <+: [] ++ stop :: after ↔ start = [] ∧ rest <+: after :=
      starts_at_stop_iff start_without before_without
    rw [List.nil_append] at first
    rw [List.nil_append, List.infix_cons_iff, first, List.suffix_nil]
  | cons c before ih =>
    have first : start ++ stop :: rest <+: c :: before ++ stop :: after ↔ start = c :: before ∧ rest <+: after :=
      starts_at_stop_iff start_without before_without
    have later := ih fun member => before_without (List.mem_cons_of_mem c member)
    rw [List.cons_append] at first
    rw [List.cons_append, List.infix_cons_iff, first, later, List.suffix_cons_iff, or_and_right, or_assoc]

theorem occurs_behind_iff (mark : Char) (unmarked : mark ∉ before) (closed : stop ∉ start ++ [mark]) :
    start ++ mark :: rest <:+: before ++ stop :: after ↔ start ++ mark :: rest <:+: after := by
  have never (before : List Char) (unmarked : mark ∉ before) : ¬ start ++ mark :: rest <+: before ++ stop :: after := by
    intro starts
    have opening : start ++ [mark] <+: start ++ mark :: rest := ⟨rest, by simp⟩
    have within := starts_before_stop closed (opening.trans starts)
    exact unmarked (within.subset (by simp))
  induction before with
  | nil =>
    have here := never [] unmarked
    rw [List.nil_append] at here ⊢
    rw [List.infix_cons_iff, or_iff_right here]
  | cons c before ih =>
    have here := never (c :: before) unmarked
    rw [List.cons_append] at here ⊢
    rw [List.infix_cons_iff, or_iff_right here]
    exact ih fun member => unmarked (List.mem_cons_of_mem c member)

end Text

namespace DdlStatement

def PlainToken (token : String) : Prop := '=' ∉ token.toList ∧ ')' ∉ token.toList

instance (token : String) : Decidable (PlainToken token) := inferInstanceAs (Decidable (_ ∧ _))

theorem marker_to_list (token : String) : (marker token).toList = "TSO".toList ++ '=' :: (token.toList ++ [')']) := by
  simp [marker]

theorem contains_marker_iff (text sought : String) :
    Text.contains text (marker sought) = true ↔ "TSO".toList ++ '=' :: (sought.toList ++ [')']) <:+: text.toList := by
  rw [Text.contains_iff, marker_to_list]

-- The end of the hint holds no equals sign, and its slash is no part of "TSO=".
theorem marker_behind_token (token sought statement : List Char) (no_equals : '=' ∉ token) :
    "TSO".toList ++ '=' :: sought <:+: token ++ ")*/".toList ++ statement ↔
      "TSO".toList ++ '=' :: sought <:+: statement := by
  have unmarked : '=' ∉ token ++ ")*".toList := by simp [no_equals]
  have behind : "TSO".toList ++ '=' :: sought <:+: token ++ ")*".toList ++ '/' :: statement ↔
      "TSO".toList ++ '=' :: sought <:+: statement := Text.occurs_behind_iff '=' unmarked (by decide)
  rwa [List.append_assoc] at behind ⊢

def openingOf : Hint → List Char
  | .plain => "/*+TDDL:cmd_extra(TSO".toList
  | .asynchronous => "/*+TDDL:cmd_extra(PURE_ASYNC_DDL_MODE=TRUE,TSO".toList

theorem hint_to_list (hint : Hint) (token : String) :
    (hint.render token).toList = openingOf hint ++ '=' :: (token.toList ++ ")*/".toList) := by
  cases hint with
  | plain =>
    have opening : "/*+TDDL:cmd_extra(TSO=".toList = openingOf .plain ++ ['='] := by decide
    unfold Hint.render
    simp only [String.toList_append, opening, List.append_assoc, List.cons_append, List.nil_append]
  | asynchronous =>
    have opening : "/*+TDDL:cmd_extra(PURE_ASYNC_DDL_MODE=TRUE,TSO=".toList = openingOf .asynchronous ++ ['='] := by decide
    unfold Hint.render
    simp only [String.toList_append, opening, List.append_assoc, List.cons_append, List.nil_append]

-- The mode of an asynchronous hint ends in an equals sign too, but in no "TSO" before it.
theorem marker_in_hint (hint : Hint) (after sought : List Char) :
    "TSO".toList ++ '=' :: sought <:+: openingOf hint ++ '=' :: after ↔
      sought <+: after ∨ "TSO".toList ++ '=' :: sought <:+: after := by
  have unmarked : '=' ∉ "TSO".toList := by decide
  cases hint with
  | plain =>
    have ends : "TSO".toList <:+ openingOf .plain := by decide
    rw [Text.occurs_at_stop_iff unmarked (by decide), and_iff_right ends]
  | asynchronous =>
    have mode : openingOf .asynchronous = "/*+TDDL:cmd_extra(PURE_ASYNC_DDL_MODE".toList ++ '=' :: "TRUE,TSO".toList := by
      decide
    have strays : ¬ "TSO".toList <:+ "/*+TDDL:cmd_extra(PURE_ASYNC_DDL_MODE".toList := by decide
    have ends : "TSO".toList <:+ "TRUE,TSO".toList := by decide
    rw [mode, List.append_assoc, List.cons_append, Text.occurs_at_stop_iff unmarked (by decide),
      or_iff_right fun aligned => strays aligned.1, Text.occurs_at_stop_iff unmarked (by decide), and_iff_right ends]

theorem carries_marker_iff (statement schema : String) (kind : DdlKind) (token sought : String) (hint : Hint)
    (inside : kind.isDatabaseLevel = false) (plain : PlainToken token) (plain_sought : PlainToken sought) :
    Text.contains (prepare statement schema kind token hint).sql (marker sought) = true ↔
      token = sought ∨ Text.contains statement (marker sought) = true := by
  have hinted : (prepare statement schema kind token hint).sql.toList = (hint.render token).toList ++ statement.toList := by
    simp [prepare, inside]
  have behind := marker_behind_token token.toList (sought.toList ++ [')']) statement.toList plain.1
  have closed : token.toList ++ ")*/".toList ++ statement.toList =
      token.toList ++ ')' :: ("*/".toList ++ statement.toList) := by
    rw [List.append_assoc]
    rfl
  rw [contains_marker_iff, contains_marker_iff, hinted, hint_to_list, List.append_assoc, List.cons_append,
    marker_in_hint, behind, closed, Text.starts_at_stop_iff plain_sought.2 plain.2, String.toList_inj]
  refine or_congr_left ⟨fun same => same.1.symm, fun same => ⟨same.symm, List.nil_prefix⟩⟩

end DdlStatement

theorem Job.outcome_ne_succeeded (job : Job) : job.outcome ≠ .succeeded := by
  rw [Job.outcome]
  split <;> decide

inductive ListedJob where
  | dispatched (statement schema : String) (kind : DdlKind) (token : String) (hint : Hint) (state : Option String)
  | silent (state : Option String)

namespace ListedJob

def token? : ListedJob → Option String
  | .dispatched _ _ _ token _ _ => some token
  | .silent _ => none

def job : ListedJob → Job
  | .dispatched statement schema kind token hint state =>
    ⟨some (DdlStatement.prepare statement schema kind token hint).sql, state⟩
  | .silent state => ⟨none, state⟩

def Traceable (sought : String) : ListedJob → Prop
  | .dispatched statement _ kind token _ _ =>
    kind.isDatabaseLevel = false ∧ DdlStatement.PlainToken token ∧
      Text.contains statement (DdlStatement.marker sought) = false
  | .silent _ => True

def Pending (listed : ListedJob) : Prop := ∃ state, listed.job.state = some state ∧ "PENDING".toList <:+: state.toList

theorem carries_iff (listed : ListedJob) (sought : String) (plain : DdlStatement.PlainToken sought)
    (traceable : listed.Traceable sought) : listed.job.carries sought = true ↔ listed.token? = some sought := by
  cases listed with
  | silent state => simp [job, token?, Job.carries]
  | dispatched statement schema kind token hint state =>
    obtain ⟨inside, plain_token, foreign⟩ := traceable
    have marked := DdlStatement.carries_marker_iff statement schema kind token sought hint inside plain_token plain
    rw [foreign] at marked
    simpa [job, token?, Job.carries] using marked

theorem pending_iff (listed : ListedJob) : listed.job.isPending = true ↔ listed.Pending := by
  rw [Job.isPending, Option.any_eq_true, Pending]
  simp only [Text.contains_iff]

def sentFor (sought : String) (listing : List ListedJob) : List ListedJob :=
  listing.filter fun listed => listed.token? = some sought

theorem verdict_of_listing (listing : List ListedJob) (sought : String) (plain : DdlStatement.PlainToken sought)
    (traceable : ∀ listed ∈ listing, listed.Traceable sought) :
    Job.verdict (listing.map job) sought =
      ((sentFor sought listing).head?.map fun listed => listed.job.outcome).getD .succeeded := by
  have found : (listing.map job).find? (Job.carries sought) = (sentFor sought listing).head?.map job := by
    rw [List.find?_map, sentFor, List.head?_filter]
    congr 1
    refine List.find?_congr fun listed member => ?_
    rw [Function.comp_apply, Bool.eq_iff_iff, decide_eq_true_iff]
    exact listed.carries_iff sought plain (traceable listed member)
  rw [Job.verdict, found, Option.map_map]
  rfl

theorem outcome_of_pending (listed : ListedJob) :
    (listed.Pending → listed.job.outcome = .failed) ∧ (¬ listed.Pending → listed.job.outcome = .running) := by
  rw [← listed.pending_iff, Job.outcome]
  constructor
  · exact fun pending => if_pos pending
  · exact fun taken => if_neg taken

theorem succeeded_iff (listing : List ListedJob) (sought : String) (plain : DdlStatement.PlainToken sought)
    (traceable : ∀ listed ∈ listing, listed.Traceable sought) :
    Job.verdict (listing.map job) sought = .succeeded ↔ ∀ listed ∈ listing, listed.token? ≠ some sought := by
  rw [verdict_of_listing listing sought plain traceable]
  have unsent : sentFor sought listing = [] ↔ ∀ listed ∈ listing, listed.token? ≠ some sought := by
    simp [sentFor]
  rw [← unsent]
  cases sentFor sought listing with
  | nil => simp
  | cons first rest => simpa using first.job.outcome_ne_succeeded

theorem verdict_of_first (before after : List ListedJob) (first : ListedJob) (sought : String)
    (plain : DdlStatement.PlainToken sought)
    (traceable : ∀ listed ∈ before ++ first :: after, listed.Traceable sought) (sent : first.token? = some sought)
    (unsent : ∀ listed ∈ before, listed.token? ≠ some sought) :
    Job.verdict ((before ++ first :: after).map job) sought = first.job.outcome := by
  have skipped : sentFor sought before = [] := by simpa [sentFor] using unsent
  have kept : sentFor sought (before ++ first :: after) = first :: sentFor sought after := by
    rw [sentFor, List.filter_append, ← sentFor, skipped, List.nil_append, List.filter_cons_of_pos (by simp [sent]),
      sentFor]
  rw [verdict_of_listing _ sought plain traceable, kept]
  rfl

end ListedJob

open DdlStatement (PlainToken marker)

theorem jobs_are_found_by_their_token :
    (∀ (statement schema : String) (kind : DdlKind) (token sought : String) (hint : Hint),
      kind.isDatabaseLevel = false → PlainToken token → PlainToken sought →
        (Text.contains (DdlStatement.prepare statement schema kind token hint).sql (marker sought) = true ↔
          token = sought ∨ Text.contains statement (marker sought) = true)) ∧
      ∀ (listing : List ListedJob) (sought : String), PlainToken sought →
        (∀ listed ∈ listing, listed.Traceable sought) →
        (Job.verdict (listing.map ListedJob.job) sought = .succeeded ↔
          ∀ listed ∈ listing, listed.token? ≠ some sought) ∧
        (∀ before first after, listing = before ++ first :: after → first.token? = some sought →
          (∀ listed ∈ before, listed.token? ≠ some sought) →
            (first.Pending → Job.verdict (listing.map ListedJob.job) sought = .failed) ∧
            (¬ first.Pending → Job.verdict (listing.map ListedJob.job) sought = .running)) ∧
        ∀ other : List ListedJob, (∀ listed ∈ other, listed.Traceable sought) →
          ListedJob.sentFor sought other = ListedJob.sentFor sought listing →
            Job.verdict (other.map ListedJob.job) sought = Job.verdict (listing.map ListedJob.job) sought := by
  refine ⟨DdlStatement.carries_marker_iff, fun listing sought plain traceable => ⟨?_, ?_, ?_⟩⟩
  · exact ListedJob.succeeded_iff listing sought plain traceable
  · rintro before first after rfl sent unsent
    rw [ListedJob.verdict_of_first before after first sought plain traceable sent unsent]
    exact first.outcome_of_pending
  · intro other other_traceable same
    rw [ListedJob.verdict_of_listing listing sought plain traceable,
      ListedJob.verdict_of_listing other sought plain other_traceable, same]

def firstDrop : ListedJob := .dispatched "DROP TABLE TSO" "db" .drop "42" .plain (some "DDL PENDING")

def othersListed : List ListedJob :=
  [.dispatched "DROP TABLE TSO" "db" .drop "420" .asynchronous (some "RUNNING"), .silent (some "PENDING")]

def secondDrop : ListedJob := .dispatched "DROP TABLE TSO" "db" .drop "42" .asynchronous (some "RUNNING")

def busyListing : List ListedJob := othersListed ++ firstDrop :: [secondDrop]

theorem busy_listing_traceable : ∀ listed ∈ busyListing, listed.Traceable "42" := by
  have foreign : Text.contains "DROP TABLE TSO" (marker "42") = false := by
    rw [Text.contains, DdlStatement.marker_to_list]
    decide
  simp only [busyListing, othersListed, firstDrop, secondDrop, List.cons_append, List.nil_append, List.forall_mem_cons]
  exact ⟨⟨rfl, by decide, foreign⟩, trivial, ⟨rfl, by decide, foreign⟩, ⟨rfl, by decide, foreign⟩, List.forall_mem_nil _⟩

theorem pending_job_is_found_behind_others :
    PlainToken "42" ∧ (∀ listed ∈ busyListing, listed.Traceable "42") ∧
      Job.verdict (busyListing.map ListedJob.job) "42" = .failed := by
  have plain : PlainToken "42" := by decide
  have found := (jobs_are_found_by_their_token.2 busyListing "42" plain busy_listing_traceable).2.1
    othersListed firstDrop [secondDrop] rfl rfl (by decide)
  have pending : firstDrop.Pending := ⟨"DDL PENDING", rfl, (Text.contains_iff _ _).mp (by decide)⟩
  exact ⟨plain, busy_listing_traceable, found.1 pending⟩

end ChangeApply
