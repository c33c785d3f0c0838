import Mathlib

/-!
# The rate limit of live runs

A client may start so many live runs in every window of time: the limiter keeps
the times at which it has accepted a client's requests, drops those that are out
of the window, and refuses a request when the rest has reached the limit.

What it keeps is what it has accepted, but for times that no later window reaches
(`Tracks`). So no interval as long as the window holds more accepted requests than
the limit, wherever it begins, and none is refused unless the window before it is
full (`served_within_limit`).

Times are rational numbers here, and their differences exact. This idealizes the
clock of the source, whose readings are subtracted as floats.
-/

namespace RuleArena

/-- A request, of which the limiter sees the client and the time. -/
structure LiveRequest where
  client : String
  time : ℚ
  deriving DecidableEq

/-- The times of the accepted requests of each client, the first one first. -/
structure RunRateLimiter where
  limit : Nat := 10
  windowSeconds : ℚ := 300
  hits : String → List ℚ := fun _ => []

namespace RunRateLimiter

/-- The times of a client that are in the window before a request. -/
def window (limiter : RunRateLimiter) (request : LiveRequest) : List ℚ :=
  (limiter.hits request.client).dropWhile fun time =>
    limiter.windowSeconds < request.time - time

/-- The times of the client of a request are those from now on. -/
def keep (limiter : RunRateLimiter) (request : LiveRequest) (times : List ℚ) : RunRateLimiter :=
  { limiter with hits := Function.update limiter.hits request.client times }

@[simp] theorem hits_keep_self (limiter : RunRateLimiter) (request : LiveRequest)
    (times : List ℚ) : (limiter.keep request times).hits request.client = times :=
  Function.update_self ..

theorem hits_keep_other (limiter : RunRateLimiter) {request : LiveRequest} (times : List ℚ)
    {client : String} (other : request.client ≠ client) :
    (limiter.keep request times).hits client = limiter.hits client :=
  Function.update_of_ne (Ne.symm other) ..

/-- `check`: whether the request is accepted. One that is refused raises, and leaves the window
    without the times that were dropped. -/
def check (limiter : RunRateLimiter) (request : LiveRequest) : RunRateLimiter × Bool :=
  let window := limiter.window request
  if limiter.limit ≤ window.length then (limiter.keep request window, false)
  else (limiter.keep request (window ++ [request.time]), true)

/-- A request is served: the limiter after it, and the requests accepted so far. -/
def serve (served : RunRateLimiter × List LiveRequest) (request : LiveRequest) :
    RunRateLimiter × List LiveRequest :=
  ((served.1.check request).1,
    if (served.1.check request).2 then served.2 ++ [request] else served.2)

/-- Requests are served one after the other. -/
def served (limiter : RunRateLimiter) (requests : List LiveRequest) :
    RunRateLimiter × List LiveRequest :=
  requests.foldl serve (limiter, [])

/-- How many requests of a client lie in a closed interval. -/
def countWithin (requests : List LiveRequest) (client : String) (first last : ℚ) : Nat :=
  requests.countP fun request =>
    request.client = client ∧ first ≤ request.time ∧ request.time ≤ last

variable {limiter : RunRateLimiter} {accepted : List LiveRequest} {now : ℚ}
  {request : LiveRequest}

/-- The times of the requests of a client. -/
def timesOf (requests : List LiveRequest) (client : String) : List ℚ :=
  (requests.filter fun request => request.client = client).map LiveRequest.time

theorem countWithin_eq (requests : List LiveRequest) (client : String) (first last : ℚ) :
    countWithin requests client first last =
      (timesOf requests client).countP fun time => first ≤ time ∧ time ≤ last := by
  rw [timesOf, List.countP_map, List.countP_filter, countWithin]
  refine List.countP_congr fun request _ => ?_
  simp [and_comm]

theorem timesOf_append_self (requests : List LiveRequest) (request : LiveRequest) :
    timesOf (requests ++ [request]) request.client =
      timesOf requests request.client ++ [request.time] := by
  simp [timesOf]

theorem timesOf_append_other {client : String} (requests : List LiveRequest)
    (other : request.client ≠ client) :
    timesOf (requests ++ [request]) client = timesOf requests client := by
  simp [timesOf, other]

/-! ## What the limiter keeps -/

/-- At a time, the limiter keeps the times of the accepted requests, in their order, but for those
    that have left the window, and no interval holds more of them than the limit. -/
structure Tracks (limiter : RunRateLimiter) (accepted : List LiveRequest) (now : ℚ) : Prop where
  kept : ∀ client, ∃ dropped, timesOf accepted client = dropped ++ limiter.hits client ∧
    ∀ time ∈ dropped, limiter.windowSeconds < now - time
  sorted : ∀ client, (timesOf accepted client).Pairwise (· ≤ ·)
  past : ∀ client, ∀ time ∈ timesOf accepted client, time ≤ now
  bounded : ∀ client first,
    countWithin accepted client first (first + limiter.windowSeconds) ≤ limiter.limit

theorem Tracks.mono (tracks : Tracks limiter accepted now) {later : ℚ} (h : now ≤ later) :
    Tracks limiter accepted later where
  kept client := by
    obtain ⟨dropped, times, out⟩ := tracks.kept client
    exact ⟨dropped, times, fun time mem => (out time mem).trans_le (sub_le_sub_right h _)⟩
  sorted := tracks.sorted
  past client time mem := (tracks.past client time mem).trans h
  bounded := tracks.bounded

/-- The window before a request is what was accepted in it. -/
theorem Tracks.window (tracks : Tracks limiter accepted request.time) :
    ∃ dropped, timesOf accepted request.client = dropped ++ limiter.window request ∧
      (∀ time ∈ dropped, limiter.windowSeconds < request.time - time) ∧
      ∀ time ∈ limiter.window request, request.time - limiter.windowSeconds ≤ time ∧
        time ≤ request.time := by
  obtain ⟨dropped, times, out⟩ := tracks.kept request.client
  let old (time : ℚ) : Bool := limiter.windowSeconds < request.time - time
  have split := List.takeWhile_append_dropWhile (p := old) (l := limiter.hits request.client)
  refine ⟨dropped ++ (limiter.hits request.client).takeWhile old, ?_, ?_, fun time mem => ?_⟩
  · rw [List.append_assoc, times, ← split]
    exact congrArg (dropped ++ ·) (by rw [split]; exact split.symm)
  · rw [List.forall_mem_append]
    exact ⟨out, fun time mem => by simpa [old] using List.mem_takeWhile_imp mem⟩
  · have sorted : (limiter.window request).Pairwise (· ≤ ·) := by
      have all := tracks.sorted request.client
      rw [times] at all
      exact (List.pairwise_append.1 all).2.1.sublist (List.dropWhile_sublist _)
    have past : time ≤ request.time := by
      refine tracks.past request.client time ?_
      rw [times]
      exact List.mem_append_right _ ((List.dropWhile_sublist _).mem mem)
    refine ⟨?_, past⟩
    -- The first time of the window is in it, and the others come later.
    cases hw : limiter.window request with
    | nil => rw [hw] at mem; cases mem
    | cons first rest =>
      have head : ¬ limiter.windowSeconds < request.time - first := by
        have kept : (limiter.hits request.client).dropWhile old = first :: rest := hw
        have := List.head?_dropWhile_not old (limiter.hits request.client)
        rw [kept] at this
        simpa [old] using this
      rw [hw, List.pairwise_cons] at sorted
      rw [hw] at mem
      obtain rfl | later := List.mem_cons.1 mem
      · linarith
      · have := sorted.1 time later
        linarith

/-- A window that a request leaves untouched holds no more than before. -/
theorem Tracks.refuse (tracks : Tracks limiter accepted request.time) :
    Tracks (limiter.keep request (limiter.window request)) accepted request.time where
  kept client := by
    by_cases same : request.client = client
    · subst same
      obtain ⟨dropped, times, out, -⟩ := tracks.window
      exact ⟨dropped, by rw [times, hits_keep_self], out⟩
    · obtain ⟨dropped, times, out⟩ := tracks.kept client
      exact ⟨dropped, by rw [times, hits_keep_other _ _ same], out⟩
  sorted := tracks.sorted
  past := tracks.past
  bounded := tracks.bounded

/-- An accepted request is the last one of every interval that holds it: the others are in the
    window before it, which was not full. -/
theorem Tracks.accept (tracks : Tracks limiter accepted request.time)
    (room : ¬ limiter.limit ≤ (limiter.window request).length) :
    Tracks (limiter.keep request (limiter.window request ++ [request.time]))
      (accepted ++ [request]) request.time where
  kept client := by
    by_cases same : request.client = client
    · subst same
      obtain ⟨dropped, times, out, -⟩ := tracks.window
      refine ⟨dropped, ?_, out⟩
      rw [timesOf_append_self, times, hits_keep_self, List.append_assoc]
    · obtain ⟨dropped, times, out⟩ := tracks.kept client
      refine ⟨dropped, ?_, out⟩
      rw [timesOf_append_other _ same, times,
        hits_keep_other _ _ same]
  sorted client := by
    by_cases same : request.client = client
    · subst same
      rw [timesOf_append_self]
      refine List.pairwise_append.2 ⟨tracks.sorted _, List.pairwise_singleton _ _, ?_⟩
      intro time mem last h
      rw [List.mem_singleton.1 h]
      exact tracks.past _ time mem
    · rw [timesOf_append_other _ same]
      exact tracks.sorted client
  past client := by
    by_cases same : request.client = client
    · subst same
      rw [timesOf_append_self, List.forall_mem_append, List.forall_mem_singleton]
      exact ⟨tracks.past _, le_refl _⟩
    · rw [timesOf_append_other _ same]
      exact tracks.past client
  bounded client first := by
    have before := tracks.bounded client first
    change countWithin _ _ _ (first + limiter.windowSeconds) ≤ limiter.limit
    rw [countWithin_eq] at before ⊢
    by_cases same : request.client = client
    · subst same
      rw [timesOf_append_self, List.countP_append, List.countP_singleton]
      split_ifs with inside
      · obtain ⟨dropped, times, out, -⟩ := tracks.window
        have inside : first ≤ request.time ∧ request.time ≤ first + limiter.windowSeconds := by
          simpa using inside
        have gone : dropped.countP (fun time =>
            first ≤ time ∧ time ≤ first + limiter.windowSeconds) = 0 := by
          refine List.countP_eq_zero.2 fun time mem => ?_
          have := out time mem
          have : ¬ first ≤ time := by linarith [inside.2]
          simp [this]
        rw [times, List.countP_append, gone, zero_add]
        have := List.countP_le_length (p := fun time : ℚ =>
          decide (first ≤ time ∧ time ≤ first + limiter.windowSeconds))
          (l := limiter.window request)
        omega
      · exact before
    · rw [timesOf_append_other _ same]
      exact before

/-- The limiter serves a request, which comes after those before it. -/
theorem Tracks.serve (tracks : Tracks limiter accepted now) (later : now ≤ request.time) :
    Tracks (RunRateLimiter.serve (limiter, accepted) request).1
        (RunRateLimiter.serve (limiter, accepted) request).2 request.time ∧
      (RunRateLimiter.serve (limiter, accepted) request).1.limit = limiter.limit ∧
      (RunRateLimiter.serve (limiter, accepted) request).1.windowSeconds =
        limiter.windowSeconds := by
  have tracks := tracks.mono later
  by_cases full : limiter.limit ≤ (limiter.window request).length
  · have refused : limiter.check request =
        (limiter.keep request (limiter.window request), false) := if_pos full
    unfold RunRateLimiter.serve
    rw [refused]
    exact ⟨tracks.refuse, rfl, rfl⟩
  · have granted : limiter.check request =
        (limiter.keep request (limiter.window request ++ [request.time]), true) := if_neg full
    unfold RunRateLimiter.serve
    rw [granted]
    exact ⟨tracks.accept full, rfl, rfl⟩

/-- The limiter has served requests that came one after the other. -/
theorem tracks_served {limiter : RunRateLimiter} (empty : ∀ client, limiter.hits client = [])
    {requests : List LiveRequest}
    (ordered : requests.Pairwise fun earlier later => earlier.time ≤ later.time) (now : ℚ)
    (late : ∀ request ∈ requests, request.time ≤ now) :
    Tracks (served limiter requests).1 (served limiter requests).2 now ∧
      (served limiter requests).1.limit = limiter.limit ∧
      (served limiter requests).1.windowSeconds = limiter.windowSeconds := by
  induction requests using List.reverseRecOn generalizing now with
  | nil =>
    refine ⟨⟨fun client => ⟨[], (empty client).symm, List.forall_mem_nil _⟩,
      fun client => List.Pairwise.nil, fun client => List.forall_mem_nil _, fun client first => ?_⟩,
      rfl, rfl⟩
    exact Nat.zero_le _
  | append_singleton requests request ih =>
    rw [List.pairwise_append] at ordered
    obtain ⟨tracks, limit, window⟩ := ih ordered.1 request.time fun earlier mem =>
      ordered.2.2 earlier mem request List.mem_cons_self
    obtain ⟨tracks', limit', window'⟩ := tracks.serve le_rfl
    rw [served, List.foldl_concat]
    exact ⟨tracks'.mono (late request (by simp)), limit'.trans limit, window'.trans window⟩

end RunRateLimiter

open RunRateLimiter in
/-- No closed interval as long as the window holds more accepted requests of a client than the
    limit, and a request is refused only if the window before it holds as many. -/
theorem served_within_limit (limit : Nat) (windowSeconds : ℚ) {requests : List LiveRequest}
    (ordered : requests.Pairwise fun earlier later => earlier.time ≤ later.time) :
    (∀ client first, countWithin (served { limit, windowSeconds } requests).2 client first
      (first + windowSeconds) ≤ limit) ∧
    ∀ before request after, requests = before ++ request :: after →
      ((served { limit, windowSeconds } before).1.check request).2 = false →
      limit ≤ countWithin (served { limit, windowSeconds } before).2 request.client
        (request.time - windowSeconds) request.time := by
  constructor
  · intro client first
    obtain ⟨now, late⟩ : ∃ now, ∀ request ∈ requests, request.time ≤ now := by
      refine ⟨(requests.map LiveRequest.time).foldr max 0, fun request mem => ?_⟩
      exact List.le_max_of_le' _ (List.mem_map_of_mem mem) le_rfl
    obtain ⟨tracks, hl, hw⟩ := @tracks_served { limit, windowSeconds }
      (fun _ => rfl) requests ordered now late
    have bounded := tracks.bounded client first
    rwa [hl, hw] at bounded
  · rintro before request after rfl refused
    rw [List.pairwise_append] at ordered
    obtain ⟨tracks, hl, hw⟩ := @tracks_served { limit, windowSeconds }
      (fun _ => rfl) before ordered.1 request.time fun earlier mem =>
        ordered.2.2 earlier mem request List.mem_cons_self
    have full : limit ≤ ((served { limit, windowSeconds } before).1.window request).length := by
      unfold check at refused
      dsimp only at refused
      split_ifs at refused with full
      rwa [hl] at full
    obtain ⟨dropped, times, -, inside⟩ := tracks.window
    rw [countWithin_eq, times, List.countP_append]
    have all : ((served { limit, windowSeconds } before).1.window request).countP (fun time =>
        request.time - windowSeconds ≤ time ∧ time ≤ request.time) =
          ((served { limit, windowSeconds } before).1.window request).length := by
      refine List.countP_eq_length.2 fun time mem => ?_
      have inside := inside time mem
      rw [hw] at inside
      exact decide_eq_true inside
    omega

/-- One request in a minute: the second one is refused, and the third one comes a minute later. -/
theorem served_within_limit_minute :
    (∀ client first, RunRateLimiter.countWithin (RunRateLimiter.served
      { limit := 1, windowSeconds := 60 } [⟨"a", 0⟩, ⟨"a", 30⟩, ⟨"a", 61⟩]).2 client first
        (first + 60) ≤ 1) ∧
    ∀ before request after,
      [⟨"a", 0⟩, ⟨"a", 30⟩, ⟨"a", 61⟩] = before ++ request :: after →
      ((RunRateLimiter.served { limit := 1, windowSeconds := 60 } before).1.check request).2 =
        false →
      1 ≤ RunRateLimiter.countWithin (RunRateLimiter.served
        { limit := 1, windowSeconds := 60 } before).2 request.client (request.time - 60)
          request.time :=
  served_within_limit 1 60 (by
    simp only [List.pairwise_cons, List.forall_mem_cons]
    norm_num)

end RuleArena
