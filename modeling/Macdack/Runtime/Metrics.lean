import Macdack.Library.Expiry
import Std.Data.ExtTreeMap.Lemmas

/-!
# Client request series

Every request is counted twice: in a counter that never goes down, and in the series of
its labels. A series that has been idle for a day is dropped by the first cleanup behind
that, and `record_request` and a scrape of `GET /metrics` make one when the last is a
minute old.

The series are a table of entries that expire (`table_run`). `series_expire` says of
every sequence of requests and scrapes when a series counts on, when it starts anew, and
what a scrape shows.
-/

set_option autoImplicit false

namespace Macdack

/-! ## Time -/

/-- A point of the monotonic clock, in nanoseconds. -/
abbrev Instant := ℕ

namespace Instant

/-- `Duration::from_secs`. -/
def fromSecs (seconds : ℕ) : ℕ := seconds * 1000000000

/-- `Instant::duration_since`, which is zero for a later instant. -/
def durationSince (now earlier : Instant) : ℕ := now - earlier

end Instant

/-! ## Labels -/

/-- The labels of a request: the key of its series. -/
structure RequestLabels where
  location : String
  hostname : String
  stage : String
  route : String
  message : String
  deriving DecidableEq, Repr

namespace RequestLabels

/-- The order of the tuples, field by field. -/
def order : RequestLabels → RequestLabels → Ordering :=
  compareLex (compareOn location) (compareLex (compareOn hostname)
    (compareLex (compareOn stage) (compareLex (compareOn route) (compareOn message))))

instance : Ord RequestLabels := ⟨order⟩

instance : Std.TransOrd RequestLabels :=
  inferInstanceAs (Std.TransCmp (compareLex (compareOn location) (compareLex (compareOn hostname)
    (compareLex (compareOn stage) (compareLex (compareOn route) (compareOn message))))))

instance : Std.LawfulEqOrd RequestLabels where
  eq_of_compare {labels other} same := by
    change order labels other = .eq at same
    simp only [order, compareLex_eq_eq, compareOn, Std.LawfulEqOrd.compare_eq_iff_eq] at same
    obtain ⟨location, hostname, stage, route, message⟩ := labels
    obtain ⟨rfl, rfl, rfl, rfl, rfl⟩ := same
    rfl

end RequestLabels

/-! ## Series -/

/-- `METRIC_IDLE_TTL`. -/
def metricIdleTtl : ℕ := Instant.fromSecs (24 * 3600)

/-- The least time between two cleanups. -/
def pruneInterval : ℕ := Instant.fromSecs 60

/-- The number of requests of each series with the time of the last one. -/
abbrev RequestSeries := Std.ExtTreeMap RequestLabels (ℕ × Instant)

structure RequestMetrics where
  series : RequestSeries
  lastPruned : Option Instant

namespace RequestMetrics

def initial : RequestMetrics := ⟨∅, none⟩

/-- The condition under which `prune` makes a cleanup. -/
def due (metrics : RequestMetrics) (now : Instant) : Bool :=
  metrics.lastPruned.all fun last => decide (pruneInterval ≤ now.durationSince last)

def prune (metrics : RequestMetrics) (now : Instant) : RequestMetrics :=
  if metrics.due now then
    { series := metrics.series.filter fun _ entry =>
        decide (now.durationSince entry.2 < metricIdleTtl)
      lastPruned := some now }
  else metrics

/-- The entry of a key, made if it is missing, with one request more. -/
def count (metrics : RequestMetrics) (key : RequestLabels) (now : Instant) : RequestMetrics :=
  { metrics with
    series := metrics.series.alter key fun entry => some ((entry.getD (0, now)).1 + 1, now) }

end RequestMetrics

/-! ## The metrics of requests and responses -/

/-- The counters and the series of `Shared` that the DHCP side writes. A counter of 64 bits
is a natural number: no process lives to see one overflow. -/
structure Traffic where
  requests : ℕ
  responses : ℕ
  errors : ℕ
  unknown : ℕ
  bootModeMismatches : ℕ
  requestLabels : RequestMetrics
  responseLabels : Std.ExtTreeMap String ℕ

namespace Traffic

def initial : Traffic := ⟨0, 0, 0, 0, 0, .initial, ∅⟩

def recordRequest (traffic : Traffic) (location hostname stage route message : String)
    (now : Instant) : Traffic :=
  { traffic with
    requests := traffic.requests + 1
    requestLabels :=
      (traffic.requestLabels.prune now).count ⟨location, hostname, stage, route, message⟩ now }

def recordResponse (traffic : Traffic) (message : String) : Traffic :=
  { traffic with
    responses := traffic.responses + 1
    responseLabels := traffic.responseLabels.alter message fun count =>
      some (count.getD 0 + 1) }

/-- The series that `metrics` reports, and what it leaves. -/
def scrape (traffic : Traffic) (now : Instant) : RequestSeries × Traffic :=
  ((traffic.requestLabels.prune now).series,
    { traffic with requestLabels := traffic.requestLabels.prune now })

/-- A use of a key is a request with these labels, a look is a scrape. -/
def step (traffic : Traffic) : Expiry.Event RequestLabels → Traffic
  | .use labels now =>
      traffic.recordRequest labels.location labels.hostname labels.stage labels.route
        labels.message now
  | .look now => (traffic.scrape now).2

/-- What a sequence of requests and scrapes, the newest first, makes of nothing. -/
def run : List (Expiry.Event RequestLabels) → Traffic
  | [] => initial
  | event :: older => (run older).step event

end Traffic

/-- The times of the executed cleanups, the newest first. -/
def cleanups : List (Expiry.Event RequestLabels) → List Instant
  | [] => []
  | event :: older =>
      if (Traffic.run older).requestLabels.due event.time then event.time :: cleanups older
      else cleanups older

/-- The number of requests of a sequence. -/
def requestCount : List (Expiry.Event RequestLabels) → ℕ
  | [] => 0
  | .use _ _ :: older => requestCount older + 1
  | .look _ :: older => requestCount older

/-! ## The series as a table of entries that expire -/

namespace RequestMetrics

/-- The table that the series are. -/
def table (metrics : RequestMetrics) : Expiry.Table RequestLabels where
  entries labels := metrics.series[labels]?
  cleaned := metrics.lastPruned

theorem table_initial : initial.table = Expiry.Table.empty := by
  simp only [table, initial, Std.ExtTreeMap.getElem?_empty, Expiry.Table.empty]

theorem table_prune (metrics : RequestMetrics) (now : Instant) :
    (metrics.prune now).table = metrics.table.clean metricIdleTtl pruneInterval now := by
  by_cases due : metrics.due now = true
  · rw [prune, if_pos due, Expiry.Table.clean, if_pos (by exact due)]
    simp only [table, Std.ExtTreeMap.getElem?_filter']
    rfl
  · rw [prune, if_neg due, Expiry.Table.clean, if_neg (by exact due)]

theorem table_count (metrics : RequestMetrics) (key : RequestLabels) (now : Instant) :
    (metrics.count key now).table = metrics.table.use key now := by
  simp only [table, count, Expiry.Table.use, Expiry.Table.mk.injEq, and_true]
  funext other
  simp only [Std.ExtTreeMap.getElem?_alter, Std.LawfulEqOrd.compare_eq_iff_eq]

/-- A cleanup adds no series. -/
theorem mem_of_mem_prune {metrics : RequestMetrics} {now : Instant} {labels : RequestLabels}
    (kept : labels ∈ (metrics.prune now).series) : labels ∈ metrics.series := by
  rw [prune] at kept
  split at kept
  · exact Std.ExtTreeMap.mem_of_mem_filter kept
  · exact kept

/-- A request adds the series of its key and no other. -/
theorem mem_count {metrics : RequestMetrics} {key labels : RequestLabels} {now : Instant}
    (counted : labels ∈ (metrics.count key now).series) :
    labels = key ∨ labels ∈ metrics.series := by
  rw [count, Std.ExtTreeMap.mem_alter] at counted
  split at counted
  · rename_i same
    exact .inl (Std.LawfulEqOrd.eq_of_compare same).symm
  · exact .inr counted

end RequestMetrics

/-- **The series of a sequence** are the table of its requests and scrapes. -/
theorem table_run (history : List (Expiry.Event RequestLabels)) :
    (Traffic.run history).requestLabels.table =
      Expiry.run metricIdleTtl pruneInterval history := by
  induction history with
  | nil => exact RequestMetrics.table_initial
  | cons event older ih =>
      rw [Expiry.run, ← ih]
      cases event with
      | use labels now =>
          exact (RequestMetrics.table_count _ _ _).trans
            (congrArg (fun table => Expiry.Table.use table labels now)
              (RequestMetrics.table_prune _ _))
      | look now => exact RequestMetrics.table_prune _ _

theorem cleanups_eq (history : List (Expiry.Event RequestLabels)) :
    cleanups history = Expiry.cleanups metricIdleTtl pruneInterval history := by
  induction history with
  | nil => rfl
  | cons event older ih =>
      rw [cleanups, Expiry.cleanups, ← table_run, ← ih]
      rfl

theorem requests_run (history : List (Expiry.Event RequestLabels)) :
    (Traffic.run history).requests = requestCount history := by
  induction history with
  | nil => rfl
  | cons event older ih =>
      cases event with
      | use labels now => exact congrArg (· + 1) ih
      | look now => exact ih

theorem series_run (history : List (Expiry.Event RequestLabels)) (labels : RequestLabels) :
    (Traffic.run history).requestLabels.series[labels]? =
      (Expiry.run metricIdleTtl pruneInterval history).entries labels :=
  congrFun (congrArg Expiry.Table.entries (table_run history)) labels

/-! ## When series expire -/

/-- What holds of the series at every request and at every scrape of a sequence. -/
structure SeriesExpire (history : List (Expiry.Event RequestLabels)) : Prop where
  /-- A request less than a day after the last one counts on. -/
  counted : ∀ labels now older seen, .use labels now :: older <:+ history →
    Expiry.lastUse labels older = some seen → now < seen + metricIdleTtl →
      ∃ count, (Traffic.run older).requestLabels.series[labels]? = some (count, seen) ∧
        (Traffic.run (.use labels now :: older)).requestLabels.series[labels]? =
          some (count + 1, now)
  /-- A first request, or one long after the last, starts anew. -/
  renewed : ∀ labels now older, .use labels now :: older <:+ history →
    (∀ seen, Expiry.lastUse labels older = some seen →
      seen + metricIdleTtl + pruneInterval ≤ now) →
      (Traffic.run (.use labels now :: older)).requestLabels.series[labels]? = some (1, now)
  /-- A scrape shows a series that was used less than a day ago. -/
  reported : ∀ labels now older seen, .look now :: older <:+ history →
    Expiry.lastUse labels older = some seen → now < seen + metricIdleTtl →
      ∃ count, (Traffic.run older).requestLabels.series[labels]? = some (count, seen) ∧
        ((Traffic.run older).scrape now).1[labels]? = some (count, seen)
  /-- A scrape shows no series that was idle for long. -/
  dropped : ∀ labels now older count seen, .look now :: older <:+ history →
    ((Traffic.run older).scrape now).1[labels]? = some (count, seen) →
      Expiry.lastUse labels older = some seen ∧
        now < seen + metricIdleTtl + pruneInterval
  spaced : (cleanups history).Pairwise fun later earlier => earlier + pruneInterval ≤ later
  requests : (Traffic.run history).requests = requestCount history

theorem metricIdleTtl_pos : 0 < metricIdleTtl := by decide

theorem pruneInterval_pos : 0 < pruneInterval := by decide

/-- **Client series expire exactly when they may**, in every sequence of requests and
scrapes whose times do not decrease. -/
theorem series_expire {history : List (Expiry.Event RequestLabels)}
    (order : Expiry.InOrder history) : SeriesExpire history := by
  have orderOf : ∀ {part : List (Expiry.Event RequestLabels)}, part <:+ history →
      Expiry.InOrder part := fun suffix => order.sublist suffix.sublist
  constructor
  case counted =>
    intro labels now older seen suffix used recent
    simp only [series_run]
    exact Expiry.run_use_recent pruneInterval metricIdleTtl_pos (orderOf suffix) used recent
  case renewed =>
    intro labels now older suffix stale
    simp only [series_run]
    exact Expiry.run_use_stale pruneInterval metricIdleTtl_pos pruneInterval_pos
      (orderOf suffix) stale
  case reported =>
    intro labels now older seen suffix used recent
    have shown := Expiry.run_look_recent pruneInterval metricIdleTtl_pos (orderOf suffix) used
      recent
    simp only [← series_run] at shown
    exact shown
  case dropped =>
    intro labels now older count seen suffix shown
    apply Expiry.run_look_stale pruneInterval metricIdleTtl_pos pruneInterval_pos
      (orderOf suffix)
    rw [← series_run]
    exact shown
  case spaced =>
    rw [cleanups_eq]
    exact Expiry.cleanups_spaced metricIdleTtl pruneInterval_pos history
  case requests => exact requests_run history

theorem series_expire_idle : SeriesExpire
    [.look (metricIdleTtl + pruneInterval), .use ⟨"dc1", "web1", "os", "default", "discover"⟩ 0] :=
  series_expire (by simp [Expiry.InOrder, Expiry.Event.time])

end Macdack
