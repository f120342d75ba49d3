import Bluewave.Lib.Paging
import Bluewave.Auth
import Bluewave.Config
import Bluewave.Datetime
import Bluewave.Tables

/-! `GET /runs`: the run history, a page at a time. Each page is from a query of its own,
sorted by the time a run started. In which order runs of one instant come is up to the
server, each time anew. -/
namespace Bluewave.RunHistory
open Lib Lib.Paging Bluewave.Auth Bluewave.Datetime Bluewave.Exceptions
open Bluewave.Tables

/-! ## The request -/

/-- `limit`, as `Query(20, ge=1, le=200)` lets it through. -/
structure PageSize where
  rows : Nat
  one_le : 1 ≤ rows
  le_max : rows ≤ 200

structure RunsQuery where
  limit : PageSize
  offset : Nat

/-- The parameters of the request; `none` is FastAPI's 422. -/
def runsQuery? (limit offset : Option Int) : Option RunsQuery :=
  let limit := limit.getD 20
  let offset := offset.getD 0
  if h : 1 ≤ limit ∧ limit ≤ 200 then
    if 0 ≤ offset then some ⟨⟨limit.toNat, by omega, by omega⟩, offset.toNat⟩ else none
  else none

/-- The link to the page before. -/
def RunsQuery.previous (q : RunsQuery) : RunsQuery := { q with offset := q.offset - q.limit.rows }

/-- The link to the page after it. -/
def RunsQuery.next (q : RunsQuery) : RunsQuery := { q with offset := q.offset + q.limit.rows }

/-! ## The reply -/

/-- The columns `get_runs` selects. -/
structure RunEntry where
  id : Nat
  source : String
  reportDate : Date
  startedAt : Timestamp
  finishedAt : Option Timestamp
  status : Status
  rowsInCsv : Option Int
  rowsInserted : Option Int
  rowsDuplicate : Option Int
  manual : Bool
  errorExcerpt : Option String
  deriving DecidableEq

def selected (r : RunRow) : RunEntry where
  id := r.id
  source := r.source
  reportDate := r.reportDate
  startedAt := r.startedAt
  finishedAt := r.finishedAt
  status := r.status
  rowsInCsv := r.rowsInCsv
  rowsInserted := r.rowsInserted
  rowsDuplicate := r.rowsDuplicate
  manual := r.manual
  errorExcerpt := r.errorExcerpt

inductive RunsReply where
  | json (rows : List RunEntry)
  | html (cfg : Config) (rows : List RunEntry) (q : RunsQuery)

/-- The runs on the page, in its order. -/
def RunsReply.runs : RunsReply → List RunEntry
  | .json rows => rows
  | .html _ rows _ => rows

/-- `get_runs`. `order` is what connecting or the query raises, or the order the server has
the rows in for this query. -/
def getRuns (cfg : Option Config) (accept : String) (order : Except Exn (List RunRow))
    (q : RunsQuery) : Except Failure RunsReply :=
  match cfg, order with
  | none, _ => .error ⟨409, "unconfigured", []⟩
  | some _, .error _ => .error internalServerError
  | some cfg, .ok order =>
    let rows := (page q.limit.rows q.offset order).map selected
    if "application/json".toList <:+: accept.toList then .ok (.json rows)
    else .ok (.html cfg rows q)

/-! ## Its text -/

/-- `str` of a date. -/
def strDate (d : Date) : String :=
  let (year, month, day) := ordToYmd d.ordinal
  pad 4 year ++ "-" ++ pad 2 month ++ "-" ++ pad 2 day

/-- `str` of a naive datetime. -/
def strDatetime (t : Timestamp) : String :=
  let f := fields t
  pad 4 f.year ++ "-" ++ pad 2 f.month ++ "-" ++ pad 2 f.day ++ " " ++ pad 2 f.hour ++ ":" ++
    pad 2 f.minute ++ ":" ++ pad 2 f.second ++
    if f.microsecond = 0 then "" else "." ++ pad 6 f.microsecond

/-- The JSON object of a run. -/
structure RunJson where
  id : Nat
  source : String
  reportDate : String
  startedAt : String
  finishedAt : Option String
  status : String
  rowsInCsv : Option Int
  rowsInserted : Option Int
  rowsDuplicate : Option Int
  manual : Bool
  errorExcerpt : Option String
  deriving DecidableEq

/-- `_serialize_run`. -/
def serializeRun (r : RunEntry) : RunJson where
  id := r.id
  source := r.source
  reportDate := strDate r.reportDate
  startedAt := strDatetime r.startedAt
  finishedAt := r.finishedAt.map strDatetime
  status := r.status.text
  rowsInCsv := r.rowsInCsv
  rowsInserted := r.rowsInserted
  rowsDuplicate := r.rowsDuplicate
  manual := r.manual
  errorExcerpt := r.errorExcerpt

/-- `html.escape`, a character at a time. -/
def escapeChar : Char → List Char
  | '&' => "&amp;".toList
  | '<' => "&lt;".toList
  | '>' => "&gt;".toList
  | '"' => "&quot;".toList
  | '\x27' => "&#x27;".toList
  | c => [c]

/-- `_esc`. -/
def esc (s : String) : String := String.ofList (s.toList.flatMap escapeChar)

/-- `_esc` of what may be `None`. -/
def escOption {α : Type} (text : α → String) (x : Option α) : String :=
  esc ((x.map text).getD "")

/-- The class of a row. -/
def css : Status → String
  | .ok => "ok"
  | .running => "running"
  | _ => "fail"

/-- The row of a run in the table. -/
def runHtml (r : RunEntry) : String :=
  "<tr class='" ++ css r.status ++ "'>" ++
    "<td><a href='/runs/" ++ esc (toString r.id) ++ "'>#" ++ esc (toString r.id) ++ "</a></td>" ++
    "<td>" ++ esc (strDate r.reportDate) ++ "</td>" ++
    "<td>" ++ esc (strDatetime r.startedAt) ++ "</td>" ++
    "<td>" ++ escOption strDatetime r.finishedAt ++ "</td>" ++
    "<td class='status-cell'>" ++ esc r.status.text ++ "</td>" ++
    "<td>" ++ escOption toString r.rowsInCsv ++ "</td>" ++
    "<td>" ++ escOption toString r.rowsInserted ++ "</td>" ++
    "<td>" ++ escOption toString r.rowsDuplicate ++ "</td>" ++
    "<td>" ++ (if r.manual then "yes" else "no") ++ "</td>" ++
    "</tr>"

/-- The URL of a page. -/
def RunsQuery.href (q : RunsQuery) : String :=
  "/runs?limit=" ++ toString q.limit.rows ++ "&offset=" ++ toString q.offset

/-- `_render_runs_html`, in the frame that every page has. -/
def renderRunsHtml (pageShell : String → String → String) (cfg : Config) (rows : List RunEntry)
    (q : RunsQuery) : String :=
  let rowsHtml := "<table class='runs'><thead><tr>" ++
    "<th>id</th><th>report_date</th><th>started (UTC)</th>" ++
    "<th>finished (UTC)</th><th>status</th>" ++
    "<th>rows in</th><th>inserted</th><th>dup</th><th>manual</th>" ++
    "</tr></thead><tbody>" ++ String.join (rows.map runHtml) ++ "</tbody></table>"
  let body := "<header>\n<h1>" ++ esc cfg.siteLabel ++ " — runs</h1>\n<div class='meta'>showing " ++
    toString (q.offset + 1) ++ "–" ++ toString (q.offset + rows.length) ++ " (limit " ++
    toString q.limit.rows ++ ")</div>\n</header>\n<main>\n" ++
    "<nav><a href='/'>&larr; Dashboard</a> <a href='/config'>Configure</a></nav>\n" ++
    rowsHtml ++ "\n<div class='button-row'>\n" ++
    "<a href='" ++ q.previous.href ++
    "'><button class='secondary' type='button'>&larr; Previous</button></a>\n" ++
    "<a href='" ++ q.next.href ++
    "'><button class='secondary' type='button'>Next &rarr;</button></a>\n" ++
    "</div>\n</main>\n"
  pageShell ("Runs — " ++ cfg.siteLabel) body

inductive Body where
  | json (runs : List RunJson)
  | html (text : String)

def RunsReply.body (pageShell : String → String → String) : RunsReply → Body
  | .json rows => .json (rows.map serializeRun)
  | .html cfg rows q => .html (renderRunsHtml pageShell cfg rows q)

/-! ## Page after page -/

/-- The request for the first page. -/
def PageSize.first (limit : PageSize) : RunsQuery := ⟨limit, 0⟩

/-- The links to the next page lead through all multiples of the page size. -/
theorem next_iterate (limit : PageSize) (k : Nat) :
    RunsQuery.next^[k] limit.first = ⟨limit, k * limit.rows⟩ := by
  induction k with
  | zero => rw [Nat.zero_mul]; rfl
  | succ k ih =>
    rw [Function.iterate_succ_apply', ih, Nat.succ_mul]
    rfl

/-- And back. -/
theorem previous_next (q : RunsQuery) : q.next.previous = q := by
  unfold RunsQuery.previous RunsQuery.next
  dsimp only
  rw [Nat.add_sub_cancel]

/-- What the first `n` pages list. The server takes the rows in the order `order k` for the
query of page `k`. -/
def listed (cfg : Config) (accept : Nat → String) (order : Nat → List RunRow) (limit : PageSize)
    (n : Nat) : List RunEntry :=
  (List.range n).flatMap fun k =>
    match getRuns (some cfg) (accept k) (.ok (order k)) (RunsQuery.next^[k] limit.first) with
    | .ok reply => reply.runs
    | .error _ => []

/-- Whatever orders the server picks, the pages that hold the table list every run once,
the newest first. -/
def ListsEachOnce (cfg : Config) (table : RunsTable) (limit : PageSize) : Prop :=
  ∀ accept order, (∀ k, Ordered RunRow.startedAt table.rows (order k)) →
    ∀ n, table.rows.length ≤ n * limit.rows →
      (listed cfg accept order limit n).Perm (table.rows.map selected) ∧
        (listed cfg accept order limit n).Pairwise fun a b => b.startedAt ≤ a.startedAt

/-- No page starts between two runs that started together. -/
def NoneSplit (table : RunsTable) (limit : PageSize) : Prop :=
  ∀ r ∈ table.rows, OnOnePage RunRow.startedAt table.rows limit.rows r.startedAt

instance (table : RunsTable) (limit : PageSize) : Decidable (NoneSplit table limit) :=
  inferInstanceAs (Decidable (∀ r ∈ table.rows, _))

section
variable {table : RunsTable} {limit : PageSize}

theorem runs_getRuns (cfg : Config) (accept : String) (order : List RunRow) (q : RunsQuery) :
    ∃ reply, getRuns (some cfg) accept (.ok order) q = .ok reply ∧
      reply.runs = (page q.limit.rows q.offset order).map selected := by
  unfold getRuns
  dsimp only
  split
  · exact ⟨_, rfl, rfl⟩
  · exact ⟨_, rfl, rfl⟩

theorem listed_eq (cfg : Config) (accept : Nat → String) (order : Nat → List RunRow)
    (limit : PageSize) (n : Nat) :
    listed cfg accept order limit n = (pages limit.rows order n).map selected := by
  unfold listed pages
  rw [List.map_flatMap]
  refine List.flatMap_congr fun k _ => ?_
  obtain ⟨reply, hreply, hruns⟩ := runs_getRuns cfg (accept k) (order k)
    (RunsQuery.next^[k] limit.first)
  rw [hreply]
  dsimp only
  rw [hruns, next_iterate]

/-- A listed run is a row of the table that stands on some page. -/
theorem mem_pages_of_selected {order : Nat → List RunRow} {n : Nat} {r : RunRow}
    (horder : ∀ k, Ordered RunRow.startedAt table.rows (order k)) (hr : r ∈ table.rows)
    (h : selected r ∈ (pages limit.rows order n).map selected) :
    r ∈ pages limit.rows order n := by
  obtain ⟨r', hpage, heq⟩ := List.mem_map.mp h
  obtain ⟨k, -, hk⟩ := List.mem_flatMap.mp hpage
  have hr' : r' ∈ table.rows :=
    (horder k).perm.subset (List.mem_of_mem_drop (List.mem_of_mem_take hk))
  have hid : r'.id = r.id := congrArg RunEntry.id heq
  rw [← RunsTable.eq_of_id hr' hr hid]
  exact hpage

theorem not_listsEachOnce (cfg : Config) (h : ¬ NoneSplit table limit) :
    ¬ ListsEachOnce cfg table limit := by
  intro hlists
  obtain ⟨r, hsplit⟩ := not_forall.mp h
  obtain ⟨hr, hsplit⟩ := Classical.not_imp.mp hsplit
  obtain ⟨order, horder, lost, hlost, hmissing⟩ :=
    exists_missing table.nodup limit.one_le hr hsplit
  have hall : table.rows.length ≤ table.rows.length * limit.rows :=
    Nat.le_mul_of_pos_right _ limit.one_le
  have hperm := (hlists (fun _ => "") order horder _ hall).1
  rw [listed_eq] at hperm
  exact hmissing _ (mem_pages_of_selected horder hlost
    (hperm.symm.subset (List.mem_map_of_mem hlost)))

/-- Runs that all started at times of their own are never split. -/
theorem noneSplit_of_nodup (h : (table.rows.map RunRow.startedAt).Nodup) : NoneSplit table limit :=
  fun _ hr => onOnePage_of_nodup h hr

end

/-! ## Two runs of one instant -/

/-- A scheduled run and a manual one, recorded as started in the same millisecond. -/
def twins : RunsTable :=
  (RunsTable.empty.insertRun "Bluewave" ⟨739748, by decide, by decide⟩ 1778742000000000 false).insertRun
    "Bluewave" ⟨739749, by decide, by decide⟩ 1778742000000000 true

def onePerPage : PageSize := ⟨1, by decide, by decide⟩

theorem twins_split : ¬ NoneSplit twins onePerPage := by decide

/-! ## When the pages list every run -/

/-- The pages list every run once, whatever the server does, exactly when no group of runs
that started together stands on two pages. -/
theorem listsEachOnce_iff (cfg : Config) (table : RunsTable) (limit : PageSize) :
    ListsEachOnce cfg table limit ↔ NoneSplit table limit := by
  constructor
  · intro hlists
    by_contra h
    exact not_listsEachOnce cfg h hlists
  · intro h accept order horder n hn
    have hcut : ∀ k, Cut RunRow.startedAt table.rows (k * limit.rows) := fun k r hr =>
      (onOnePage_iff limit.one_le hr).mp (h r hr) k
    rw [listed_eq]
    refine ⟨(pages_perm horder hcut hn).map selected, ?_⟩
    exact List.pairwise_map.mpr (pages_sorted horder hcut n)

/-- One of them may be on both pages, and the other on none. -/
theorem not_listsEachOnce_twins : ¬ ∀ cfg table limit, ListsEachOnce cfg table limit := by
  intro h
  have hcfg : Nonempty Config := ⟨⟨"", "", "", "", "", "", 0, "", "", "", "", 0⟩⟩
  obtain ⟨cfg⟩ := hcfg
  exact not_listsEachOnce cfg twins_split (h cfg twins onePerPage)

end Bluewave.RunHistory
