import ResearchTool.EcmaScript.Date

/-!
# The commit activity chart

`renderCommitChart` of the dashboard counts commits in twelve weekly buckets
and states a total in its legend.  The buckets partition the twelve weeks that
end today; the legend counts every commit it was given.
-/

namespace ResearchTool

open EcmaScript

/-! ## Buckets -/

/-- `WEEKS`. -/
def weeks : Nat :=
  12

/-- A commit of the list, with the value of `new Date(c.committed_at)`. -/
structure ChartCommit where
  committedAt : Date
  deriving DecidableEq

structure Bucket where
  start : Date
  ending : Date
  count : Nat := 0
  deriving DecidableEq

/-- `d >= b.start && d <= b.end`; a comparison with `NaN` is false. -/
def Bucket.holds (bucket : Bucket) (date : Date) : Bool :=
  match date, bucket.start, bucket.ending with
  | some time, some start, some ending => start.ms ≤ time.ms && time.ms ≤ ending.ms
  | _, _, _ => false

section

variable (offset : Int) (now : TimeValue)

def endOfDay (date : Date) : Date :=
  setHours offset date 23 59 59 999

/-- The bucket `Array.from` makes for one index. -/
def weeklyBucket (index : Nat) : Bucket :=
  let ending := endOfDay offset (setDateBack offset (some now) ((weeks - 1 - index : Nat) * 7))
  { start := setHours offset (setDateBack offset ending 6) 0 0 0 0
    ending }

/-- The buckets from the oldest to the newest, before any commit is counted. -/
def weeklyBuckets : List Bucket :=
  (List.range weeks).map (weeklyBucket offset now)

end

/-- The inner loop: the first bucket that holds the date is incremented. -/
def countDate (date : Date) : List Bucket → List Bucket
  | [] => []
  | bucket :: rest =>
      if bucket.holds date then
        { bucket with count := bucket.count + 1 } :: rest
      else
        bucket :: countDate date rest

/-- The outer loop. -/
def countCommits (buckets : List Bucket) (commits : List ChartCommit) : List Bucket :=
  commits.foldl (fun buckets commit => countDate commit.committedAt buckets) buckets

/-! ## The legend -/

/-- `(numerator / denominator).toFixed(1)`, half a tenth rounded up. -/
def toFixedOne (numerator denominator : Nat) : String :=
  let tenths := (20 * numerator + denominator) / (2 * denominator)
  toString (tenths / 10) ++ "." ++ toString (tenths % 10)

structure Legend where
  commits : Nat
  average : String
  activeWeeks : Nat
  deriving DecidableEq

/-- The text of the legend. -/
def Legend.text (legend : Legend) : String :=
  toString legend.commits ++ " commits over 12 weeks · avg " ++ legend.average ++ "/week · " ++
    toString legend.activeWeeks ++ " active week" ++ if legend.activeWeeks ≠ 1 then "s" else ""

structure CommitChart where
  buckets : List Bucket
  legend : Legend

/-- `renderCommitChart`, up to the drawing.  The double nearest to a twelfth of
a length is on the same side of every tie, since the ties are quarters. -/
def renderCommitChart (offset : Int) (now : TimeValue) (commits : List ChartCommit) :
    CommitChart :=
  let buckets := countCommits (weeklyBuckets offset now) commits
  let activeWeeks := (buckets.filter fun bucket => bucket.count > 0).length
  { buckets
    legend := {
      commits := commits.length
      average := toFixedOne commits.length weeks
      activeWeeks } }

/-! ## The edges of the buckets -/

section

variable (offset : Int) (now : TimeValue)

/-- The local day number of the current time. -/
def today : Int :=
  day (localTime offset now.ms)

/-- The first and the last millisecond of the seven days that end some weeks
before today. -/
def firstMs (weeksAgo : Int) : Int :=
  (today offset now - weeksAgo * 7 - 6) * msPerDay - offset

def lastMs (weeksAgo : Int) : Int :=
  (today offset now - weeksAgo * 7) * msPerDay + 86399999 - offset

/-- All edges are time values. -/
def EdgesInRange : Prop :=
  -maxTime ≤ firstMs offset now 11 ∧ lastMs offset now 0 ≤ maxTime

variable {offset now}

theorem day_localTime_clip {days : Int} {time : TimeValue}
    (moved : time.ms = now.ms - days * msPerDay) :
    day (localTime offset time.ms) = today offset now - days := by
  have shifted : localTime offset time.ms = localTime offset now.ms - days * msPerDay := by
    rw [localTime, moved, localTime]
    ring
  rw [shifted, day_sub_days, today]

theorem ending_ms {index : Nat} {ending : TimeValue}
    (edge : (weeklyBucket offset now index).ending = some ending) :
    ending.ms = lastMs offset now (weeks - 1 - index : Nat) := by
  have made : (weeklyBucket offset now index).ending =
    endOfDay offset (setDateBack offset (some now) ((weeks - 1 - index : Nat) * 7)) := rfl
  rw [made, setDateBack_some] at edge
  cases moved : timeClip (now.ms - ((weeks - 1 - index : Nat) : Int) * 7 * msPerDay) with
  | none =>
      rw [moved] at edge
      cases edge
  | some time =>
      rw [moved, endOfDay, setHours_some, timeClip_eq_some_iff] at edge
      rw [edge, day_localTime_clip (timeClip_eq_some_iff.mp moved)]
      rfl

theorem start_ms {index : Nat} {start : TimeValue}
    (edge : (weeklyBucket offset now index).start = some start) :
    start.ms = firstMs offset now (weeks - 1 - index : Nat) := by
  have made : (weeklyBucket offset now index).start =
    setHours offset (setDateBack offset (weeklyBucket offset now index).ending 6) 0 0 0 0 := rfl
  cases last : (weeklyBucket offset now index).ending with
  | none =>
      rw [made, last] at edge
      cases edge
  | some ending =>
      rw [made, last, setDateBack_some] at edge
      cases moved : timeClip (ending.ms - 6 * msPerDay) with
      | none =>
          rw [moved] at edge
          cases edge
      | some time =>
          have shifted : localTime offset time.ms =
              (today offset now - ((weeks - 1 - index : Nat) : Int) * 7 - 6) * msPerDay +
                86399999 := by
            rw [localTime, timeClip_eq_some_iff.mp moved, ending_ms last, lastMs]
            ring
          have sixDaysBefore : day (localTime offset time.ms) =
              today offset now - ((weeks - 1 - index : Nat) : Int) * 7 - 6 := by
            rw [shifted, day_of_time _ (by decide) (by decide)]
          rw [moved, setHours_some, timeClip_eq_some_iff, sixDaysBefore] at edge
          rw [edge, firstMs]
          have midnight : makeTime 0 0 0 0 = 0 := rfl
          rw [midnight, Int.add_zero]

theorem today_bounds : today offset now * msPerDay ≤ now.ms + offset ∧
    now.ms + offset ≤ today offset now * msPerDay + 86399999 := by
  unfold today day localTime msPerDay
  omega

theorem exists_ending (inRange : EdgesInRange offset now) (index : Nat) :
    ∃ ending, (weeklyBucket offset now index).ending = some ending := by
  obtain ⟨lower, upper⟩ := inRange
  have bounds : today offset now * msPerDay ≤ now.ms + offset ∧
      now.ms + offset ≤ today offset now * msPerDay + 86399999 := today_bounds
  have recent : ((weeks - 1 - index : Nat) : Int) ≤ 11 := by
    unfold weeks
    omega
  have nowUpper := now.upper
  unfold firstMs msPerDay at lower
  unfold lastMs msPerDay at upper
  unfold msPerDay at bounds
  have moved := @timeClip_of_range (now.ms - ((weeks - 1 - index : Nat) : Int) * 7 * msPerDay)
    (by unfold msPerDay; omega) (by unfold msPerDay; omega)
  have made : (weeklyBucket offset now index).ending =
    endOfDay offset (setDateBack offset (some now) ((weeks - 1 - index : Nat) * 7)) := rfl
  have time : makeTime 23 59 59 999 = 86399999 := rfl
  rw [made, setDateBack_some, moved, endOfDay, setHours_some, day_localTime_clip rfl, time]
  exact ⟨_, timeClip_of_range (by unfold msPerDay; omega) (by unfold msPerDay; omega)⟩

/-- Every step from the current time to an edge stays between the first edge and
the last. -/
theorem weeklyBucket_edges (inRange : EdgesInRange offset now) (index : Nat) :
    ∃ start ending, (weeklyBucket offset now index).start = some start ∧
      (weeklyBucket offset now index).ending = some ending := by
  obtain ⟨ending, last⟩ := exists_ending inRange index
  obtain ⟨lower, upper⟩ := inRange
  have recent : ((weeks - 1 - index : Nat) : Int) ≤ 11 := by
    unfold weeks
    omega
  have endingMs := ending_ms last
  have endingUpper := ending.upper
  unfold firstMs msPerDay at lower
  unfold lastMs msPerDay at endingMs
  have back := @timeClip_of_range (ending.ms - 6 * msPerDay)
    (by unfold msPerDay; omega) (by unfold msPerDay; omega)
  have made : (weeklyBucket offset now index).start =
    setHours offset (setDateBack offset (weeklyBucket offset now index).ending 6) 0 0 0 0 := rfl
  have sixDaysBefore : day (localTime offset (ending.ms - 6 * msPerDay)) =
      today offset now - ((weeks - 1 - index : Nat) : Int) * 7 - 6 := by
    unfold localTime day msPerDay
    omega
  have midnight : makeTime 0 0 0 0 = 0 := rfl
  have first : ∃ start, (weeklyBucket offset now index).start = some start := by
    rw [made, last, setDateBack_some, back, setHours_some, sixDaysBefore, midnight]
    exact ⟨_, timeClip_of_range (by unfold msPerDay; omega) (by unfold msPerDay; omega)⟩
  obtain ⟨start, first⟩ := first
  exact ⟨start, ending, first, last⟩

/-- The edges are in range exactly if every bucket has both. -/
theorem edgesInRange_iff :
    EdgesInRange offset now ↔
      ∀ bucket ∈ weeklyBuckets offset now, bucket.start.isSome ∧ bucket.ending.isSome := by
  constructor
  · intro inRange bucket member
    obtain ⟨index, _, rfl⟩ := List.mem_map.mp member
    obtain ⟨start, ending, first, last⟩ := weeklyBucket_edges inRange index
    simp [first, last]
  · intro dated
    have oldest := (dated (weeklyBucket offset now 0) (List.mem_map_of_mem (by decide))).1
    have newest := (dated (weeklyBucket offset now 11) (List.mem_map_of_mem (by decide))).2
    obtain ⟨start, first⟩ := Option.isSome_iff_exists.mp oldest
    obtain ⟨ending, last⟩ := Option.isSome_iff_exists.mp newest
    have lower := start.lower
    have upper := ending.upper
    rw [start_ms first] at lower
    rw [ending_ms last] at upper
    exact ⟨lower, upper⟩

theorem holds_weeklyBucket (inRange : EdgesInRange offset now) (index : Nat) (time : TimeValue) :
    (weeklyBucket offset now index).holds (some time) = true ↔
      firstMs offset now (weeks - 1 - index : Nat) ≤ time.ms ∧
        time.ms ≤ lastMs offset now (weeks - 1 - index : Nat) := by
  obtain ⟨start, ending, first, last⟩ := weeklyBucket_edges inRange index
  simp [Bucket.holds, first, last, start_ms first, ending_ms last]

end

/-! ## The window -/

/-- The date is between the start of the first bucket and the end of today. -/
def InWindow (offset : Int) (now : TimeValue) (date : Date) : Prop :=
  ∃ time start ending, date = some time ∧ (weeklyBucket offset now 0).start = some start ∧
    endOfDay offset (some now) = some ending ∧ start.ms ≤ time.ms ∧ time.ms ≤ ending.ms

/-- Some bucket holds the date. -/
def IsCounted (offset : Int) (now : TimeValue) (date : Date) : Prop :=
  ∃ bucket ∈ weeklyBuckets offset now, bucket.holds date = true

section

variable {offset : Int} {now : TimeValue} (inRange : EdgesInRange offset now)

include inRange

theorem endOfToday : ∃ ending, endOfDay offset (some now) = some ending ∧
    ending.ms = lastMs offset now 0 := by
  obtain ⟨start, ending, first, last⟩ := weeklyBucket_edges inRange 11
  have whole : setDateBack offset (some now) 0 = some now := by
    rw [setDateBack_some, timeClip_eq_some_iff]
    ring
  have made : (weeklyBucket offset now 11).ending =
    endOfDay offset (setDateBack offset (some now) ((weeks - 1 - 11 : Nat) * 7)) := rfl
  have current : ((weeks - 1 - 11 : Nat) : Int) = 0 := rfl
  have lastMsOf := ending_ms last
  rw [current] at lastMsOf
  rw [last, current, Int.zero_mul, whole] at made
  exact ⟨ending, made.symm, lastMsOf⟩

/-- The buckets cover the window and nothing else. -/
theorem inWindow_iff_isCounted (date : Date) :
    InWindow offset now date ↔ IsCounted offset now date := by
  obtain ⟨oldest, _, first, _⟩ := weeklyBucket_edges inRange 0
  obtain ⟨newest, last, newestMs⟩ := endOfToday inRange
  constructor
  · rintro ⟨time, start, ending, rfl, starts, ends, after, before⟩
    cases first.symm.trans starts
    cases last.symm.trans ends
    rw [start_ms first] at after
    rw [newestMs] at before
    obtain ⟨weeksAgo, defined⟩ : ∃ ago, ago = (lastMs offset now 0 - time.ms) / (7 * msPerDay) :=
      ⟨_, rfl⟩
    have oldestAgo : ((weeks - 1 - 0 : Nat) : Int) = 11 := rfl
    rw [oldestAgo, firstMs] at after
    rw [lastMs] at before defined
    unfold msPerDay at after before defined
    have recent : 0 ≤ weeksAgo ∧ weeksAgo ≤ 11 := by
      omega
    have index : ((weeks - 1 - (11 - weeksAgo.toNat) : Nat) : Int) = weeksAgo := by
      unfold weeks
      omega
    have member : 11 - weeksAgo.toNat ∈ List.range weeks := by
      rw [List.mem_range, weeks]
      omega
    refine ⟨weeklyBucket offset now (11 - weeksAgo.toNat), List.mem_map_of_mem member, ?_⟩
    rw [holds_weeklyBucket inRange, index, firstMs, lastMs]
    unfold msPerDay
    omega
  · rintro ⟨bucket, member, held⟩
    obtain ⟨index, _, rfl⟩ := List.mem_map.mp member
    cases date with
    | none => cases held
    | some time =>
        rw [holds_weeklyBucket inRange] at held
        refine ⟨time, oldest, newest, rfl, first, last, ?_, ?_⟩
        · rw [start_ms first]
          unfold firstMs weeks msPerDay at *
          omega
        · rw [newestMs]
          unfold lastMs weeks msPerDay at *
          omega

theorem weeklyBuckets_disjoint : (weeklyBuckets offset now).Pairwise fun earlier later =>
    ∀ date, ¬ (earlier.holds date = true ∧ later.holds date = true) := by
  rw [weeklyBuckets, List.pairwise_map]
  apply List.Pairwise.imp_of_mem _ List.pairwise_lt_range
  rintro earlier later _ below before date ⟨heldEarlier, heldLater⟩
  cases date with
  | none => cases heldEarlier
  | some time =>
      rw [holds_weeklyBucket inRange] at heldEarlier heldLater
      rw [List.mem_range] at below
      unfold firstMs lastMs weeks msPerDay at *
      omega

end

/-! ## Counting commits -/

/-- The edges of a bucket. -/
def Bucket.edges (bucket : Bucket) : Date × Date :=
  (bucket.start, bucket.ending)

/-- Which dates are held depends on the edges only. -/
theorem any_holds_of_edges {buckets others : List Bucket}
    (same : buckets.map Bucket.edges = others.map Bucket.edges) (date : Date) :
    (buckets.any fun bucket => bucket.holds date) =
      others.any fun bucket => bucket.holds date := by
  have byEdges : ∀ list : List Bucket, (list.any fun bucket => bucket.holds date) =
      (list.map Bucket.edges).any fun edges =>
        Bucket.holds { start := edges.1, ending := edges.2 } date := by
    intro list
    rw [List.any_map]
    rfl
  rw [byEdges, byEdges, same]

theorem edges_countDate (date : Date) (buckets : List Bucket) :
    (countDate date buckets).map Bucket.edges = buckets.map Bucket.edges := by
  induction buckets with
  | nil => rfl
  | cons bucket rest ih =>
      unfold countDate
      split
      · rfl
      · rw [List.map_cons, List.map_cons, ih]

theorem countDate_of_none {date : Date} {buckets : List Bucket}
    (free : (buckets.any fun bucket => bucket.holds date) = false) :
    countDate date buckets = buckets := by
  induction buckets with
  | nil => rfl
  | cons bucket rest ih =>
      rw [List.any_cons, Bool.or_eq_false_iff] at free
      simp [countDate, free.1, ih free.2]

/-- A date that some bucket holds increments exactly one. -/
theorem countDate_of_any {date : Date} {buckets : List Bucket}
    (held : (buckets.any fun bucket => bucket.holds date) = true) :
    ∃ index < buckets.length, (countDate date buckets).map Bucket.count =
      (buckets.map Bucket.count).modify index (· + 1) := by
  induction buckets with
  | nil => cases held
  | cons bucket rest ih =>
      by_cases first : bucket.holds date = true
      · exact ⟨0, by simp, by simp [countDate, first]⟩
      · have later : (rest.any fun bucket => bucket.holds date) = true := by
          simpa [first] using held
        obtain ⟨index, below, counted⟩ := ih later
        exact ⟨index + 1, by simpa using below, by simp [countDate, first, counted]⟩

theorem sum_countDate (date : Date) (buckets : List Bucket) :
    ((countDate date buckets).map Bucket.count).sum = (buckets.map Bucket.count).sum +
      if (buckets.any fun bucket => bucket.holds date) then 1 else 0 := by
  induction buckets with
  | nil => rfl
  | cons bucket rest ih =>
      by_cases first : bucket.holds date = true
      · simp only [countDate, first, if_true, List.map_cons, List.sum_cons, List.any_cons,
          Bool.true_or]
        omega
      · simp only [countDate, first, if_false, List.map_cons, List.sum_cons, List.any_cons,
          Bool.false_or, ih, Bool.false_eq_true]
        omega

theorem edges_countCommits (commits : List ChartCommit) (buckets : List Bucket) :
    (countCommits buckets commits).map Bucket.edges = buckets.map Bucket.edges := by
  induction commits generalizing buckets with
  | nil => rfl
  | cons commit rest ih =>
      have step : countCommits buckets (commit :: rest) =
        countCommits (countDate commit.committedAt buckets) rest := rfl
      rw [step, ih, edges_countDate]

/-- The loop counts the commits that some bucket holds. -/
theorem sum_countCommits (commits : List ChartCommit) (buckets : List Bucket) :
    ((countCommits buckets commits).map Bucket.count).sum = (buckets.map Bucket.count).sum +
      commits.countP fun commit => buckets.any fun bucket => bucket.holds commit.committedAt := by
  induction commits generalizing buckets with
  | nil => rfl
  | cons commit rest ih =>
      have step : countCommits buckets (commit :: rest) =
        countCommits (countDate commit.committedAt buckets) rest := rfl
      have same : ∀ date, ((countDate commit.committedAt buckets).any fun bucket =>
          bucket.holds date) = buckets.any fun bucket => bucket.holds date :=
        any_holds_of_edges (edges_countDate commit.committedAt buckets)
      rw [step, ih, sum_countDate, List.countP_cons]
      simp only [same]
      omega

/-! ## The chart and its legend -/

/-- The counts after some commits. -/
def bucketCounts (offset : Int) (now : TimeValue) (commits : List ChartCommit) : List Nat :=
  (countCommits (weeklyBuckets offset now) commits).map Bucket.count

/-- The twelve buckets partition the window, each commit of the window
increments exactly one of them and no other commit does, and the legend states
the sum and the average of the counts. -/
structure CountsOnce (offset : Int) (now : TimeValue) (commits : List ChartCommit) : Prop where
  dated : ∀ bucket ∈ weeklyBuckets offset now, bucket.start.isSome ∧ bucket.ending.isSome
  disjoint : (weeklyBuckets offset now).Pairwise fun earlier later =>
    ∀ date, ¬ (earlier.holds date = true ∧ later.holds date = true)
  covered : ∀ date, InWindow offset now date → IsCounted offset now date
  inside : ∀ earlier commit, earlier ++ [commit] <+: commits →
    InWindow offset now commit.committedAt →
      ∃ index < weeks, bucketCounts offset now (earlier ++ [commit]) =
        (bucketCounts offset now earlier).modify index (· + 1)
  outside : ∀ earlier commit, earlier ++ [commit] <+: commits →
    ¬ InWindow offset now commit.committedAt →
      bucketCounts offset now (earlier ++ [commit]) = bucketCounts offset now earlier
  total : (renderCommitChart offset now commits).legend.commits =
    ((renderCommitChart offset now commits).buckets.map Bucket.count).sum
  average : (renderCommitChart offset now commits).legend.average =
    toFixedOne ((renderCommitChart offset now commits).buckets.map Bucket.count).sum weeks

section

variable {offset : Int} {now : TimeValue}

theorem any_holds_iff (date : Date) :
    ((weeklyBuckets offset now).any fun bucket => bucket.holds date) = true ↔
      IsCounted offset now date := by
  rw [List.any_eq_true]
  rfl

theorem countCommits_append (buckets : List Bucket) (earlier : List ChartCommit)
    (commit : ChartCommit) :
    countCommits buckets (earlier ++ [commit]) =
      countDate commit.committedAt (countCommits buckets earlier) := by
  rw [countCommits, List.foldl_append]
  rfl

theorem any_holds_countCommits (commits : List ChartCommit) (date : Date) :
    ((countCommits (weeklyBuckets offset now) commits).any fun bucket => bucket.holds date) =
      (weeklyBuckets offset now).any fun bucket => bucket.holds date :=
  any_holds_of_edges (edges_countCommits commits _) date

theorem bucketCounts_of_counted (earlier : List ChartCommit) {commit : ChartCommit}
    (counted : IsCounted offset now commit.committedAt) :
    ∃ index < weeks, bucketCounts offset now (earlier ++ [commit]) =
      (bucketCounts offset now earlier).modify index (· + 1) := by
  have held := (any_holds_countCommits earlier _).trans ((any_holds_iff _).mpr counted)
  obtain ⟨index, below, counts⟩ := countDate_of_any held
  have length : (countCommits (weeklyBuckets offset now) earlier).length = weeks := by
    have edges := congrArg List.length (edges_countCommits earlier (weeklyBuckets offset now))
    simpa [weeklyBuckets] using edges
  refine ⟨index, length ▸ below, ?_⟩
  rw [bucketCounts, countCommits_append]
  exact counts

theorem bucketCounts_of_not_counted (earlier : List ChartCommit) {commit : ChartCommit}
    (foreign : ¬ IsCounted offset now commit.committedAt) :
    bucketCounts offset now (earlier ++ [commit]) = bucketCounts offset now earlier := by
  have free : ((weeklyBuckets offset now).any fun bucket =>
      bucket.holds commit.committedAt) = false := by
    rw [← Bool.not_eq_true, any_holds_iff]
    exact foreign
  rw [bucketCounts, countCommits_append,
    countDate_of_none ((any_holds_countCommits earlier _).trans free)]
  rfl

/-- The sum of the counts is the number of commits some bucket holds. -/
theorem sum_bucketCounts (commits : List ChartCommit) :
    (bucketCounts offset now commits).sum = commits.countP fun commit =>
      (weeklyBuckets offset now).any fun bucket => bucket.holds commit.committedAt := by
  have empty : ((weeklyBuckets offset now).map Bucket.count).sum = 0 := by
    simp [weeklyBuckets, weeklyBucket, Function.comp_def]
  rw [bucketCounts, sum_countCommits, empty, Nat.zero_add]

theorem length_eq_sum_iff (inRange : EdgesInRange offset now) (commits : List ChartCommit) :
    commits.length = (bucketCounts offset now commits).sum ↔
      ∀ commit ∈ commits, InWindow offset now commit.committedAt := by
  rw [sum_bucketCounts, eq_comm, List.countP_eq_length]
  simp only [any_holds_iff, inWindow_iff_isCounted inRange]

end

/-- The chart counts every commit of its window once and its legend agrees with
the buckets if and only if the edges of the buckets are time values and no
commit lies outside the window. -/
theorem chart_counts_once_iff (offset : Int) (now : TimeValue) (commits : List ChartCommit) :
    CountsOnce offset now commits ↔
      EdgesInRange offset now ∧ ∀ commit ∈ commits, InWindow offset now commit.committedAt := by
  constructor
  · intro once
    have inRange := edgesInRange_iff.mpr once.dated
    exact ⟨inRange, (length_eq_sum_iff inRange commits).mp once.total⟩
  · rintro ⟨inRange, inWindow⟩
    have total := (length_eq_sum_iff inRange commits).mpr inWindow
    exact {
      dated := edgesInRange_iff.mp inRange
      disjoint := weeklyBuckets_disjoint inRange
      covered := fun date => (inWindow_iff_isCounted inRange date).mp
      inside := fun earlier commit _ member =>
        bucketCounts_of_counted earlier ((inWindow_iff_isCounted inRange _).mp member)
      outside := fun earlier commit _ absent =>
        bucketCounts_of_not_counted earlier (mt (inWindow_iff_isCounted inRange _).mpr absent)
      total := total
      average := congrArg (fun sum => toFixedOne sum weeks) total }

/-- Noon of a day of January 2026, in UTC. -/
def chartNow : TimeValue where
  ms := 1768478400000
  lower := by decide
  upper := by decide

/-- A year earlier. -/
def oldCommit : ChartCommit where
  committedAt := timeClip 1736942400000

/-- A commit of the last year is in no bucket and in the legend. -/
theorem chart_counts_old_commit :
    (renderCommitChart 0 chartNow [oldCommit]).legend.text =
      "1 commits over 12 weeks · avg 0.1/week · 0 active weeks" ∧
    ¬ CountsOnce 0 chartNow [oldCommit] := by
  constructor
  · decide +kernel
  · intro once
    have total := once.total
    revert total
    decide +kernel

end ResearchTool
