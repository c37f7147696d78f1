import TextShell.Builtin.Call
import TextShell.Proofs.Decimal.Binary64

/-!
# Requests that are repeated

What a sequence of requests does is said here by the outcomes and the pauses alone.  An
outcome is final if nothing is requested after it wherever it stands: a response that
reports success, or a failure that repeating cannot mend.  One call takes the outcomes up
to the first final one, or as many as it may, and what it comes to is what the last of
them means, unless the clock refuses a pause: then it comes to that refusal.

`attempt` makes one request and goes on with a network that is one outcome shorter, so
`attempt_course` is one induction on the requests that are left; it covers every number of
them, also those at which a pause can no longer be computed.

## Main results

* `Network.retries_as_asked` — the result, the requests and the pauses of a call that may
  be repeated up to 1024 times, on every clock.
* `Builtin.truthy_only_for_reply` — a success that a script sees is the text of a response
  that was received in that call, unless a negative number of repetitions is set.
-/

namespace TextShell

/-! ## What an outcome means -/

namespace RequestOutcome

/-- An outcome after which nothing is requested, wherever it stands. -/
def IsFinal : RequestOutcome → Prop
  | .response status _ => 200 ≤ status ∧ status < 300
  | .failure kind _ => kind ≠ .connect ∧ kind ≠ .timeout ∧ kind ≠ .runtime

/-- What requests come to whose last outcome this is: the text of a response that reports
success, and otherwise a failure. -/
def ending (url : String) : RequestOutcome → RequestResult
  | .response status text =>
    if 200 ≤ status ∧ status < 300 then .body text
    else
      .failed (.reported "RuntimeError" ("HTTP " ++ toString status ++ " for " ++ url ++ ": " ++
        String.ofList (text.toList.take 200))) true
  | .failure kind text => .failed (.reported kind.kind text) kind.isCaught

/-- The verdict on an outcome says what it comes to and whether it is final. -/
theorem verdict_cases (o : RequestOutcome) (url : String) :
    (o.IsFinal ∧ ∃ text, o.verdict url = .success text ∧ o.ending url = .body text) ∨
      ∃ fault caught retryable, o.verdict url = .failure fault caught retryable ∧
        o.ending url = .failed fault caught ∧ (o.IsFinal ↔ retryable = false) := by
  cases o with
  | response status text =>
    by_cases h : 200 ≤ status ∧ status < 300
    · exact .inl ⟨h, text, by simp [verdict, isSuccessStatus, h], if_pos h⟩
    · have hverdict : (RequestOutcome.response status text).verdict url =
          .failure (responseFailure url status text) true true := by
        simp only [verdict, isSuccessStatus, ← Bool.decide_and, h, decide_false,
          Bool.false_eq_true, if_false]
      exact .inr ⟨_, _, _, hverdict, if_neg h, by simpa [IsFinal] using h⟩
  | failure kind text =>
    refine .inr ⟨_, _, _, rfl, rfl, ?_⟩
    cases kind <;> simp [IsFinal, TransportFailure.isRetryable]

theorem verdict_of_not_final {o : RequestOutcome} (h : ¬ o.IsFinal) (url : String) :
    ∃ fault caught, o.verdict url = .failure fault caught true := by
  rcases o.verdict_cases url with ⟨hfinal, -⟩ | ⟨fault, caught, retryable, hverdict, -, hfinal⟩
  · exact absurd hfinal h
  · cases retryable with
    | false => exact absurd (hfinal.2 rfl) h
    | true => exact ⟨fault, caught, hverdict⟩

end RequestOutcome

namespace Network

/-- The outcome of the request of this number among those to come, counted from zero. -/
def outcome (n : Network) (number : Nat) : RequestOutcome :=
  n.outcomes.getD number (.failure .connect "no reply")

/-- The network behind one request. -/
def requested (n : Network) (method url : String) (headers : List (Document × Document)) :
    Network :=
  { n with outcomes := n.outcomes.tail, log := n.log.push (.requested method url headers) }

theorem request_eq (n : Network) (method url : String) (headers : List (Document × Document)) :
    n.request method url headers = (n.outcome 0, n.requested method url headers) := by
  obtain ⟨outcomes, log, clock⟩ := n
  cases outcomes <;> rfl

@[simp] theorem outcome_requested (n : Network) (method url : String)
    (headers : List (Document × Document)) (number : Nat) :
    (n.requested method url headers).outcome number = n.outcome (number + 1) := by
  simp [outcome, requested, List.getD_eq_getElem?_getD]

@[simp] theorem outcome_record (n : Network) (event : NetworkEvent) (number : Nat) :
    (n.record event).outcome number = n.outcome number := rfl

end Network

/-! ## One request -/

/-- The pause behind the request of this number, where the power can be computed. -/
def RequestConfig.pause (config : RequestConfig) (number : Nat) : Float :=
  config.backoff * Decimal.powerOfTwo number

/-- The events of `count` requests, each with the pause behind it, and of one more request;
the first of them has this number. -/
def RequestConfig.events (config : RequestConfig) (method url : String) (number count : Nat) :
    List NetworkEvent :=
  (List.range' number count).flatMap (fun i =>
    [.requested method url config.headers, .slept (config.pause i)]) ++
      [.requested method url config.headers]

theorem RequestConfig.events_succ (config : RequestConfig) (method url : String)
    (number count : Nat) :
    config.events method url number (count + 1) =
      .requested method url config.headers ::
        .slept (config.pause number) :: config.events method url (number + 1) count := by
  simp [events, List.range'_succ]

/-- A pause can be computed behind the requests below 1024. -/
theorem RequestConfig.pause?_eq (config : RequestConfig) (number : Nat) :
    config.pause? number = if number < 1024 then some (config.pause number) else none := by
  rw [pause?, Decimal.ofInteger?_pow2]
  split <;> rfl

namespace Network

section Attempt

variable {config : RequestConfig} {method url : String} {number left : Nat} {n : Network}

/-- A final outcome, or the last one that may be taken, is what the call comes to. -/
theorem attempt_stop (h : (n.outcome 0).IsFinal ∨ left = 0) :
    attempt config method url number left n =
      ((n.outcome 0).ending url, n.requested method url config.headers) := by
  unfold attempt
  rw [request_eq]
  rcases (n.outcome 0).verdict_cases url with ⟨-, text, hverdict, hending⟩ |
    ⟨fault, caught, retryable, hverdict, hending, hfinal⟩
  · simp only [hverdict, hending]
  · simp only [hverdict, hending]
    cases left with
    | zero => rfl
    | succ left =>
      have hstop : retryable = false := hfinal.1 (h.resolve_right (by omega))
      simp [hstop]

/-- Behind any other outcome there is a pause; if the clock makes it, the requests go on. -/
theorem attempt_repeat (h : ¬ (n.outcome 0).IsFinal) (hnumber : number < 1024)
    (hclock : n.clock (config.pause number) = none) :
    attempt config method url number (left + 1) n =
      attempt config method url (number + 1) left
        ((n.requested method url config.headers).record (.slept (config.pause number))) := by
  obtain ⟨fault, caught, hverdict⟩ := RequestOutcome.verdict_of_not_final h url
  rw [attempt, request_eq]
  simp [hverdict, config.pause?_eq, hnumber, requested, hclock]

/-- A pause that the clock refuses is what the call comes to. -/
theorem attempt_refused (h : ¬ (n.outcome 0).IsFinal) (hnumber : number < 1024)
    {refusal : PauseRefusal} (hclock : n.clock (config.pause number) = some refusal) :
    attempt config method url number (left + 1) n =
      (.failed refusal.fault refusal.isCaught, n.requested method url config.headers) := by
  obtain ⟨fault, caught, hverdict⟩ := RequestOutcome.verdict_of_not_final h url
  rw [attempt, request_eq]
  simp [hverdict, config.pause?_eq, hnumber, requested, hclock]

/-- Where no pause can be computed, the call fails. -/
theorem attempt_overflow (h : ¬ (n.outcome 0).IsFinal) (hnumber : 1024 ≤ number) :
    attempt config method url number (left + 1) n =
      (.failed .integerToReal false, n.requested method url config.headers) := by
  obtain ⟨fault, caught, hverdict⟩ := RequestOutcome.verdict_of_not_final h url
  rw [attempt, request_eq]
  simp [hverdict, config.pause?_eq, Nat.not_lt.2 hnumber]

end Attempt

/-! ## All requests of a call -/

/-- The first so many outcomes are passed over, and the pauses behind them are made; the
first of them belongs to the request of this number. -/
def Passes (n : Network) (config : RequestConfig) (number count : Nat) : Prop :=
  ∀ i < count, ¬ (n.outcome i).IsFinal ∧ n.clock (config.pause (number + i)) = none

/-- What a call comes to behind its last request.  It starts at the request of this number,
may be repeated `left` times and is repeated `count` times. -/
inductive Stops (n : Network) (config : RequestConfig) (url : String) (number left count : Nat) :
    RequestResult → Prop
  | outcome (h : (n.outcome count).IsFinal ∨ count = left) :
      Stops n config url number left count ((n.outcome count).ending url)
  | refused (hmore : count < left) (hpassed : ¬ (n.outcome count).IsFinal)
      {refusal : PauseRefusal} (h : n.clock (config.pause (number + count)) = some refusal) :
      Stops n config url number left count (.failed refusal.fault refusal.isCaught)
  /-- The pause that is due cannot be computed. -/
  | overflow (hmore : count < left) (h : 1024 ≤ number + count) :
      Stops n config url number left count (.failed .integerToReal false)

/-- A call that starts at the request of this number, and may be repeated `left` times, is
repeated `count` times and comes to `after`. -/
structure Course (n : Network) (config : RequestConfig) (method url : String)
    (number left count : Nat) (after : RequestResult × Network) : Prop where
  count_le : count ≤ left
  passes : n.Passes config number count
  outcomes : after.2.outcomes = n.outcomes.drop (count + 1)
  log : after.2.log.toList = n.log.toList ++ config.events method url number count
  stops : n.Stops config url number left count after.1

/-- The course of a call that ends with its first request. -/
theorem course_zero {n : Network} {config : RequestConfig} (method : String) {url : String}
    {number left : Nat} {result : RequestResult}
    (h : n.Stops config url number left 0 result) :
    n.Course config method url number left 0 (result, n.requested method url config.headers) where
  count_le := Nat.zero_le left
  passes i hi := absurd hi (Nat.not_lt_zero i)
  outcomes := by simp [requested]
  log := by simp [requested, RequestConfig.events]
  stops := h

/-- A call that makes one more request first. -/
theorem Course.succ {n : Network} {config : RequestConfig} {method url : String}
    {number left count : Nat} {after : RequestResult × Network}
    (hpassed : ¬ (n.outcome 0).IsFinal) (hclock : n.clock (config.pause number) = none)
    (h : ((n.requested method url config.headers).record (.slept (config.pause number))).Course
      config method url (number + 1) left count after) :
    n.Course config method url number (left + 1) (count + 1) after where
  count_le := Nat.succ_le_succ h.count_le
  passes i hi := by
    cases i with
    | zero => exact ⟨hpassed, hclock⟩
    | succ i =>
      have := h.passes i (by omega)
      rwa [outcome_record, outcome_requested, Nat.add_right_comm] at this
  outcomes := by simpa [requested, record, List.drop_tail] using h.outcomes
  log := by
    rw [h.log, config.events_succ]
    simp [requested, record]
  stops := by
    have houtcome : ((n.requested method url config.headers).record
        (.slept (config.pause number))).outcome count = n.outcome (count + 1) := by
      rw [outcome_record, outcome_requested]
    have hstops := h.stops
    generalize after.1 = result at hstops
    cases hstops with
    | outcome hlast =>
      rw [houtcome] at hlast ⊢
      exact .outcome (hlast.imp_right (congrArg (· + 1)))
    | refused hmore hpassed hrefused =>
      rw [houtcome] at hpassed
      rw [Nat.add_right_comm] at hrefused
      exact .refused (by omega) hpassed hrefused
    | overflow hmore hlarge => exact .overflow (by omega) (by omega)

theorem attempt_course (n : Network) (config : RequestConfig) (method url : String)
    (number left : Nat) :
    ∃ count, n.Course config method url number left count
      (attempt config method url number left n) := by
  -- One request takes the first outcome off the network, so the numbers of the others move by one.
  induction left generalizing number n with
  | zero =>
    rw [attempt_stop (.inr rfl)]
    exact ⟨0, course_zero method (.outcome (.inr rfl))⟩
  | succ left ih =>
    by_cases hfinal : (n.outcome 0).IsFinal
    · rw [attempt_stop (.inl hfinal)]
      exact ⟨0, course_zero method (.outcome (.inl hfinal))⟩
    by_cases hnumber : number < 1024
    · cases hclock : n.clock (config.pause number) with
      | none =>
        rw [attempt_repeat hfinal hnumber hclock]
        obtain ⟨count, hcourse⟩ := ih _ (number + 1)
        exact ⟨count + 1, hcourse.succ hfinal hclock⟩
      | some refusal =>
        rw [attempt_refused hfinal hnumber hclock]
        exact ⟨0, course_zero method (.refused (by omega) hfinal hclock)⟩
    · rw [attempt_overflow hfinal (by omega)]
      exact ⟨0, course_zero method (.overflow (by omega) (by omega))⟩

theorem fetch_course (n : Network) (config : RequestConfig) (method url : String)
    (h : 0 ≤ config.retries) :
    ∃ count, (n.record (.opened config.timeout)).Course config (Text.upper method) url 0
      config.retries.toNat count (n.fetch config method url) := by
  rw [fetch, if_neg (by omega)]
  exact attempt_course ..

/-- A call that ends at the request of this number and comes to this, with one pause, twice
as long each time, between one request and the next. -/
structure EndsAt (n : Network) (config : RequestConfig) (method url : String) (last : Nat)
    (result : RequestResult) : Prop where
  result : (n.fetch config method url).1 = result
  outcomes : (n.fetch config method url).2.outcomes = n.outcomes.drop (last + 1)
  log : (n.fetch config method url).2.log.toList =
    n.log.toList ++ .opened config.timeout :: config.events (Text.upper method) url 0 last

/-- Where a call stops, it does not pass. -/
theorem Stops.not_passes {n : Network} {config : RequestConfig} {url : String}
    {number left k count : Nat} {result : RequestResult}
    (h : n.Stops config url number left k result) (hbound : number + left ≤ 1024)
    (hcount : k < count) (hleft : count ≤ left) : ¬ n.Passes config number count := by
  intro hpasses
  obtain ⟨hpassed, hclock⟩ := hpasses k hcount
  cases h with
  | outcome hlast => exact absurd (hlast.resolve_left hpassed) (by omega)
  | refused _ _ hrefused => simp [hclock] at hrefused
  | overflow _ hlarge => omega

/-- There is one thing only that a call comes to behind its last request. -/
theorem Stops.unique {n : Network} {config : RequestConfig} {url : String}
    {number left k : Nat} {result other : RequestResult}
    (h : n.Stops config url number left k result) (h' : n.Stops config url number left k other)
    (hbound : number + left ≤ 1024) : result = other := by
  cases h with
  | outcome hlast =>
    cases h' with
    | outcome _ => rfl
    | refused hmore hpassed _ => exact absurd (hlast.resolve_left hpassed) (by omega)
    | overflow _ _ => omega
  | refused hmore hpassed hrefused =>
    cases h' with
    | outcome hlast => exact absurd (hlast.resolve_left hpassed) (by omega)
    | refused _ _ hrefused' =>
      obtain rfl := Option.some.inj (hrefused.symm.trans hrefused')
      rfl
    | overflow _ _ => omega
  | overflow _ _ => omega

/-- What was done before makes no difference to where a call stops. -/
theorem Stops.record {n : Network} {config : RequestConfig} {url : String}
    {number left k : Nat} {result : RequestResult}
    (h : n.Stops config url number left k result) (event : NetworkEvent) :
    (n.record event).Stops config url number left k result := by
  cases h with
  | outcome hlast => exact .outcome (n := n.record event) hlast
  | refused hmore hpassed hrefused => exact .refused (n := n.record event) hmore hpassed hrefused
  | overflow hmore hlarge => exact .overflow hmore hlarge

/-- A call ends where it has passed and stops. -/
theorem endsAt_of_stops {n : Network} {config : RequestConfig} (method : String) {url : String}
    {retries k : Nat} (hretries : config.retries = retries) (hbound : retries ≤ 1024)
    (hk : k ≤ retries) (hpasses : n.Passes config 0 k) {result : RequestResult}
    (hstops : n.Stops config url 0 retries k result) : n.EndsAt config method url k result := by
  obtain ⟨count, hcourse⟩ := n.fetch_course config method url (by omega)
  have hleft : config.retries.toNat = retries := by omega
  rw [hleft] at hcourse
  obtain rfl : count = k := by
    rcases Nat.lt_trichotomy count k with hlt | heq | hgt
    · exact absurd hpasses (hcourse.stops.not_passes (by omega) hlt hk)
    · exact heq
    · exact absurd hcourse.passes (hstops.not_passes (by omega) hgt hcourse.count_le)
  exact ⟨hcourse.stops.unique (hstops.record _) (by omega), hcourse.outcomes,
    by simpa [record] using hcourse.log⟩

/-- **Requests are repeated as asked**, up to 1024 times and as long as the clock makes the
pauses.  A call ends at the first final outcome, or at the last one that it may take; a pause
that the clock refuses ends it there, with requests left. -/
theorem retries_as_asked (n : Network) (config : RequestConfig) (method url : String)
    {retries : Nat} (hretries : config.retries = retries) (hbound : retries ≤ 1024) :
    (∀ k ≤ retries, n.Passes config 0 k → (n.outcome k).IsFinal →
      n.EndsAt config method url k ((n.outcome k).ending url)) ∧
    (n.Passes config 0 retries → ¬ (n.outcome retries).IsFinal →
      n.EndsAt config method url retries ((n.outcome retries).ending url)) ∧
    (∀ k < retries, n.Passes config 0 k → ¬ (n.outcome k).IsFinal →
      ∀ refusal, n.clock (config.pause k) = some refusal →
        n.EndsAt config method url k (.failed refusal.fault refusal.isCaught)) ∧
    ∀ i < retries, Decimal.integer? (Decimal.powerOfTwo i) = some (2 ^ i) := by
  refine ⟨fun k hk hpasses hfinal => ?_, fun hpasses _ => ?_,
    fun k hk hpasses hpassed refusal hrefused => ?_, fun i hi =>
    Decimal.integer?_powerOfTwo (by omega)⟩
  · exact endsAt_of_stops method hretries hbound hk hpasses (.outcome (.inl hfinal))
  · exact endsAt_of_stops method hretries hbound le_rfl hpasses (.outcome (.inr rfl))
  · rw [← Nat.zero_add k] at hrefused
    exact endsAt_of_stops method hretries hbound hk.le hpasses (.refused hk hpassed hrefused)

/-- Two failures and then a success, with two repetitions allowed. -/
theorem retries_as_asked_third :
    let config : RequestConfig := ⟨5.0, 2, 0.1, []⟩
    let n : Network :=
      { outcomes := [.failure .connect "down", .response 503 "busy", .response 200 "ok"] }
    n.Passes config 0 2 ∧ n.EndsAt config "get" "http://h/" 2 (.body "ok") := by
  intro config n
  have hclock : ∀ i < 2, Clock.system (config.pause i) = none := by decide
  have hpasses : n.Passes config 0 2 := by
    intro i hi
    refine ⟨?_, by simpa using hclock i hi⟩
    interval_cases i <;> simp [n, outcome, RequestOutcome.IsFinal]
  have hfinal : (n.outcome 2).IsFinal := by simp [n, outcome, RequestOutcome.IsFinal]
  exact ⟨hpasses, (@retries_as_asked n config "get" "http://h/" 2 rfl (by omega)).1 2 le_rfl
    hpasses hfinal⟩

/-- Not every pause is made as it is asked for.  A negative one is refused behind the first
request, with one more allowed and a success to come.  One that is longer than any number of
seconds is not twice the one before, even on a clock that makes every pause. -/
theorem pauses_not_as_asked :
    (let config : RequestConfig := ⟨5.0, 1, -1.0, []⟩
    let n : Network := { outcomes := [.response 503 "busy", .response 200 "ok"] }
    n.EndsAt config "get" "http://h/" 0 (.failed PauseRefusal.negative.fault true) ∧
      (n.outcome 1).IsFinal) ∧
    let config : RequestConfig := ⟨5.0, 2, 1e308, []⟩
    let n : Network :=
      { outcomes := [.response 503 "busy", .response 503 "busy", .response 200 "ok"]
        clock := fun _ => none }
    n.EndsAt config "get" "http://h/" 2 (.body "ok") ∧ config.pause 1 = 1.0 / 0.0 := by
  refine ⟨?_, ?_⟩
  · intro config n
    have hclock : Clock.system (config.pause 0) = some .negative := by decide
    have hfinal : ¬ (n.outcome 0).IsFinal ∧ (n.outcome 1).IsFinal := by
      simp [n, outcome, RequestOutcome.IsFinal]
    have hpasses : n.Passes config 0 0 := fun i hi => absurd hi (Nat.not_lt_zero i)
    have hstops : n.Stops config "http://h/" 0 1 0 (.failed PauseRefusal.negative.fault true) :=
      .refused (by omega) hfinal.1 hclock
    exact ⟨endsAt_of_stops "get" rfl (by omega) (by omega) hpasses hstops, hfinal.2⟩
  · intro config n
    have hpasses : n.Passes config 0 2 := by
      intro i hi
      refine ⟨?_, rfl⟩
      interval_cases i <;> simp [n, outcome, RequestOutcome.IsFinal]
    have hlarge : config.pause 1 = 1.0 / 0.0 := by decide +kernel
    have hstops : n.Stops config "http://h/" 0 2 2 (.body "ok") := .outcome (.inr rfl)
    exact ⟨endsAt_of_stops "get" rfl (by omega) le_rfl hpasses hstops, hlarge⟩

/-! ## Successes that a script sees -/

/-- A request was made on the way from `n` to `after`. -/
def Requests (n after : Network) : Prop :=
  ∃ events, after.log.toList = n.log.toList ++ events ∧
    ∃ method url headers, .requested method url headers ∈ events

/-- The last outcome that was taken on the way from `n` to `after` is a response that reports
success, and this is its text. -/
def Received (n after : Network) (text : String) : Prop :=
  ∃ i status, n.outcomes[i]? = some (.response status text) ∧ 200 ≤ status ∧ status < 300 ∧
    after.outcomes = n.outcomes.drop (i + 1)

theorem response_of_ending {n : Network} {i : Nat} {url text : String}
    (h : (n.outcome i).ending url = .body text) :
    ∃ status, n.outcomes[i]? = some (.response status text) ∧ 200 ≤ status ∧ status < 300 := by
  unfold outcome at h
  rw [List.getD_eq_getElem?_getD] at h
  cases houtcome : n.outcomes[i]? with
  | none => simp [houtcome, RequestOutcome.ending] at h
  | some o =>
    rw [houtcome, Option.getD_some] at h
    cases o with
    | failure kind text => simp [RequestOutcome.ending] at h
    | response status other =>
      by_cases hstatus : 200 ≤ status ∧ status < 300
      · obtain rfl : other = text := by simpa [RequestOutcome.ending, hstatus] using h
        exact ⟨status, rfl, hstatus⟩
      · simp [RequestOutcome.ending, hstatus] at h

theorem ending_cases (o : RequestOutcome) (url : String) :
    (∃ text, o.ending url = .body text) ∨ ∃ fault caught, o.ending url = .failed fault caught := by
  rcases o.verdict_cases url with ⟨-, text, -, h⟩ | ⟨fault, caught, -, -, h, -⟩
  · exact .inl ⟨text, h⟩
  · exact .inr ⟨fault, caught, h⟩

/-- A call that is not asked for a negative number of repetitions makes a request, and comes
to a text that it received or to a failure. -/
theorem fetch_answers (n : Network) (config : RequestConfig) (method url : String)
    (h : 0 ≤ config.retries) :
    n.Requests (n.fetch config method url).2 ∧
      ((∃ text, (n.fetch config method url).1 = .body text ∧
        n.Received (n.fetch config method url).2 text) ∨
      ∃ fault caught, (n.fetch config method url).1 = .failed fault caught) := by
  obtain ⟨count, hcourse⟩ := n.fetch_course config method url h
  have hrequest : .requested (Text.upper method) url config.headers ∈
      .opened config.timeout :: config.events (Text.upper method) url 0 count := by
    simp [RequestConfig.events]
  refine ⟨⟨_, by simpa [record] using hcourse.log, _, _, _, hrequest⟩, ?_⟩
  have hstops := hcourse.stops
  generalize hresult : (n.fetch config method url).1 = result at hstops
  cases hstops with
  | outcome _ =>
    rcases ending_cases (n.outcome count) url with ⟨text, hending⟩ | ⟨fault, caught, hending⟩
    · obtain ⟨status, hresponse, hlow, hhigh⟩ := response_of_ending hending
      exact .inl ⟨text, hending, count, status, hresponse, hlow, hhigh, hcourse.outcomes⟩
    · exact .inr ⟨fault, caught, hending⟩
  | refused _ _ _ => exact .inr ⟨_, _, rfl⟩
  | overflow _ _ => exact .inr ⟨_, _, rfl⟩

/-- A call that is asked for a negative number of repetitions makes no request. -/
theorem fetch_negative (n : Network) (config : RequestConfig) (method url : String)
    (h : config.retries < 0) :
    n.fetch config method url = (.nothing, n.record (.opened config.timeout)) :=
  if_pos h

theorem not_requests_opened (n : Network) (timeout : Float) :
    ¬ n.Requests (n.record (.opened timeout)) := by
  rintro ⟨events, hlog, method, url, headers, hmem⟩
  obtain rfl : [.opened timeout] = events := by simpa [record] using hlog
  simp at hmem

end Network

/-- The environment asks for a negative number of repetitions. -/
def RequestConfig.AsksNegative (env : Environment) : Prop :=
  ∃ text count, env.lookup "DOG_HTTP_RETRIES" = some text ∧
    Decimal.readInteger text = .integer count ∧ count < 0

/-- The settings of the environment, with a time limit of their own. -/
def RequestConfig.within (env : Environment) (seconds : Float) : RequestConfig :=
  let settings := ofEnvironment env
  ⟨seconds, settings.retries, settings.backoff, settings.headers⟩

theorem RequestConfig.retries_neg_iff (env : Environment) :
    (ofEnvironment env).retries < 0 ↔ AsksNegative env := by
  unfold ofEnvironment integerSetting AsksNegative
  cases hset : env.lookup "DOG_HTTP_RETRIES" with
  | none => simp
  | some text =>
    cases hread : Decimal.readInteger text <;> simp [hread]

namespace Builtin

/-- The argument is a time limit that `get` takes: none, or a number that is not zero or less. -/
def IsLimit : Option Value → Prop
  | none => True
  | some limit => ∃ seconds, limit.asReal = .ok (some seconds) ∧ ¬ seconds ≤ 0

theorem get_of_isLimit {timeout : Option Value} (h : IsLimit timeout) (url : String) (w : World) :
    ∃ seconds, Operation.get url timeout w =
      Operation.fetch (RequestConfig.within w.environment seconds) url w := by
  cases timeout with
  | none => exact ⟨_, rfl⟩
  | some limit =>
    obtain ⟨seconds, hreal, hpositive⟩ := h
    exact ⟨seconds, by simp [Operation.get, hreal, hpositive, RequestConfig.within]⟩

/-- With any other argument `get` fails at once. -/
theorem get_of_not_isLimit {timeout : Option Value} (h : ¬ IsLimit timeout) (url : String)
    (w : World) : (Operation.get url timeout w).1 = .ok .falsy ∨
      ∃ fault, (Operation.get url timeout w).1 = .error fault := by
  cases timeout with
  | none => exact absurd trivial h
  | some limit =>
    cases hreal : limit.asReal with
    | error fault => exact .inr ⟨fault, by simp [Operation.get, hreal]⟩
    | ok number =>
      cases number with
      | none => exact .inl (by simp [Operation.get, hreal])
      | some seconds =>
        have hsmall : seconds ≤ 0 := not_not.1 fun hpositive => h ⟨seconds, hreal, hpositive⟩
        exact .inl (by simp [Operation.get, hreal, hsmall])

theorem call_get {H : Type} (registry : Registry H) (url : Value) (timeout : Option Value)
    (w : World) :
    Builtin.get.call registry (url :: timeout.toList) w =
      replyFrom (Operation.get url.text timeout w) := by
  cases timeout <;> rfl

/-- A request to this address that succeeds is one whose text was received. -/
theorem received_of_fetch {config : RequestConfig} {url : String} {w after : World} {v : Value}
    (h : Operation.fetch config url w = (.ok v, after)) (hconfig : 0 ≤ config.retries)
    (hv : v.isTruthy = true) : w.network.Received after.network v.text := by
  obtain ⟨-, hanswer⟩ := w.network.fetch_answers config "GET" url hconfig
  unfold Operation.fetch at h
  rcases hanswer with ⟨text, hresult, hreceived⟩ | ⟨fault, caught, hresult⟩
  · obtain ⟨rfl, rfl⟩ : .truthy text = v ∧ _ = after := by simpa [hresult] using h
    exact hreceived
  · cases caught with
    | false => simp [hresult] at h
    | true =>
      obtain ⟨rfl, -⟩ : .falsy fault.message = v ∧ _ := by simpa [hresult] using h
      simp [Value.isTruthy, Value.falsy] at hv

/-- Every call makes a request and ends with a text that it received or with a failure, so a
script sees a success only with the text of a response that was received in that call. -/
structure ReportsReplies (env : Environment) : Prop where
  answers : ∀ (n : Network) (seconds : Float) (url : String),
    let ended := n.fetch (RequestConfig.within env seconds) "GET" url
    n.Requests ended.2 ∧
      ((∃ text, ended.1 = .body text ∧ n.Received ended.2 text) ∨
        ∃ fault caught, ended.1 = .failed fault caught)
  truthy : ∀ (H : Type) (registry : Registry H) (url : Value) (timeout : Option Value)
    (w after : World) (v : Value), w.environment = env →
    Builtin.get.call registry (url :: timeout.toList) w = (.value v, after) →
    v.isTruthy = true → w.network.Received after.network v.text

theorem reportsReplies_of_retries {env : Environment}
    (h : 0 ≤ (RequestConfig.ofEnvironment env).retries) : ReportsReplies env := by
  refine ⟨fun n seconds url => n.fetch_answers _ "GET" url h, ?_⟩
  rintro H registry url timeout w after v rfl hcall hv
  obtain ⟨hanswer, hafter⟩ : reply (Operation.get url.text timeout w).1 = .value v ∧
      (Operation.get url.text timeout w).2 = after := by
    simpa [call_get, replyFrom] using hcall
  have hok : (Operation.get url.text timeout w).1 = .ok v := by
    cases hget : (Operation.get url.text timeout w).1 <;> simp_all [reply]
  by_cases hlimit : IsLimit timeout
  · obtain ⟨seconds, hget⟩ := get_of_isLimit hlimit url.text w
    rw [hget] at hok hafter
    exact received_of_fetch (Prod.ext hok hafter) h hv
  · rcases get_of_not_isLimit hlimit url.text w with hfalsy | ⟨fault, hfault⟩
    · obtain rfl : .falsy = v := by simpa [hfalsy] using hok
      simp [Value.isTruthy, Value.falsy] at hv
    · simp [hfault] at hok

/-- With a negative number of repetitions a call succeeds without a request. -/
theorem truthy_of_negative {H : Type} (registry : Registry H) (url : Value)
    {timeout : Option Value} (hlimit : IsLimit timeout) {w : World}
    (h : (RequestConfig.ofEnvironment w.environment).retries < 0) :
    ∃ v after, Builtin.get.call registry (url :: timeout.toList) w = (.value v, after) ∧
      v.isTruthy = true ∧ ¬ w.network.Requests after.network := by
  obtain ⟨seconds, hget⟩ := get_of_isLimit hlimit url.text w
  have hfetch := w.network.fetch_negative (.within w.environment seconds) "GET" url.text h
  rw [call_get, hget, Operation.fetch, hfetch]
  exact ⟨_, _, rfl, rfl, w.network.not_requests_opened seconds⟩

/-- **A success is the text of a response**, unless the environment asks for a negative number
of repetitions: then every call succeeds without a request. -/
theorem truthy_only_for_reply (env : Environment) :
    (¬ RequestConfig.AsksNegative env → ReportsReplies env) ∧
    (RequestConfig.AsksNegative env → ∀ (H : Type) (registry : Registry H) (url : Value)
      (timeout : Option Value) (w : World), w.environment = env → IsLimit timeout →
      ∃ v after, Builtin.get.call registry (url :: timeout.toList) w = (.value v, after) ∧
        v.isTruthy = true ∧ ¬ w.network.Requests after.network) := by
  rw [← RequestConfig.retries_neg_iff]
  refine ⟨fun hpositive => reportsReplies_of_retries (by omega), ?_⟩
  rintro hnegative H registry url timeout w rfl hlimit
  exact truthy_of_negative registry url hlimit hnegative

/-- One repetition less than none. -/
theorem reportsReplies_fails : ¬ ReportsReplies [("DOG_HTTP_RETRIES", "-1")] := by
  intro h
  have hnegative : (RequestConfig.ofEnvironment [("DOG_HTTP_RETRIES", "-1")]).retries < 0 :=
    (RequestConfig.retries_neg_iff _).2 ⟨"-1", -1, rfl, by decide, by omega⟩
  obtain ⟨hrequests, -⟩ := h.answers { outcomes := [.response 200 "ok"] } 5.0 "http://h/"
  have hfetch := Network.fetch_negative { outcomes := [.response 200 "ok"] }
    (.within [("DOG_HTTP_RETRIES", "-1")] 5.0) "GET" "http://h/" hnegative
  rw [hfetch] at hrequests
  exact Network.not_requests_opened _ _ hrequests

end Builtin

end TextShell
