/-
# The protocol of read rounds

Whatever a provider answers, the calls of an evaluation follow one protocol: each call
repeats the reads of the one before and adds the answers to what was asked, no key is read
twice, and the last answer decides the outcome, unless the rounds are used up.
-/

import Rintawa.WorldRuntime.ReadRounds

namespace Rintawa.WorldRuntime

universe u v w x y z

section Rounds

variable {Key : Type u} [DecidableEq Key] {Result : Type v} {Call : Type w} {Error : Type x}
  {Outcome : Type y} (limits : RoundLimits Error) (resolve : Key → Except Error Result)
  (envelope : List Result → Call) (answer : List Call → RoundAnswer Key Error Outcome)

/-! ## Batches -/

omit [DecidableEq Key] in
/-- Keys that are new after others, each with its answer. -/
structure Answered (seen asked : List Key) (results : List Result) : Prop where
  distinct : (seen ++ asked).Nodup
  resolved : List.Forall₂ (fun key result => resolve key = .ok result) asked results

/-- What stops a batch at one of its keys: the key came before, or it cannot be read. -/
inductive Blocked (seen asked : List Key) : Error → Prop
  | repeated {first rest : List Key} {key : Key} {results : List Result}
      (split : asked = first ++ key :: rest) (answered : Answered resolve seen first results)
      (again : key ∈ seen ++ first) : Blocked seen asked limits.repeatedRead
  | unread {first rest : List Key} {key : Key} {results : List Result} {error : Error}
      (split : asked = first ++ key :: rest) (answered : Answered resolve seen first results)
      (new : key ∉ seen ++ first) (failed : resolve key = .error error) :
      Blocked seen asked error

variable {limits resolve envelope answer}

omit [DecidableEq Key] in
theorem Answered.nil {seen : List Key} (hseen : seen.Nodup) :
    Answered resolve seen [] [] := by
  refine ⟨?_, .nil⟩
  rwa [List.append_nil]

omit [DecidableEq Key] in
/-- A read is answered before those that are asked after it. -/
theorem Answered.cons {seen asked : List Key} {results : List Result} {key : Key}
    {result : Result} (hresult : resolve key = .ok result)
    (h : Answered resolve (seen ++ [key]) asked results) :
    Answered resolve seen (key :: asked) (result :: results) := by
  refine ⟨?_, .cons hresult h.resolved⟩
  have hdistinct := h.distinct
  rwa [List.append_assoc, List.singleton_append] at hdistinct

omit [DecidableEq Key] in
/-- What stops the rest of a batch stops the batch. -/
theorem Blocked.cons {seen asked : List Key} {key : Key} {result : Result} {error : Error}
    (hresult : resolve key = .ok result)
    (h : Blocked limits resolve (seen ++ [key]) asked error) :
    Blocked limits resolve seen (key :: asked) error := by
  have happend : ∀ first : List Key, seen ++ key :: first = seen ++ [key] ++ first := by
    intro first
    rw [List.append_assoc, List.singleton_append]
  cases h with
  | repeated hsplit hanswered hagain =>
      rw [hsplit]
      refine .repeated (List.cons_append ..).symm (hanswered.cons hresult) ?_
      rwa [happend]
  | unread hsplit hanswered hnew hfailed =>
      rw [hsplit]
      refine .unread (List.cons_append ..).symm (hanswered.cons hresult) ?_ hfailed
      rwa [happend]

/-- A batch is answered as a whole, or something stops it. -/
theorem resolveKeys_cases (asked : List Key) :
    ∀ (seen : List Key) (reads : List Result), seen.Nodup →
      (∃ results, resolveKeys limits resolve asked (seen, reads) =
          .ok (seen ++ asked, reads ++ results) ∧ Answered resolve seen asked results) ∨
        ∃ error, resolveKeys limits resolve asked (seen, reads) = .error error ∧
          Blocked limits resolve seen asked error := by
  induction asked with
  | nil =>
      intro seen reads hseen
      refine .inl ⟨[], ?_, .nil hseen⟩
      rw [resolveKeys, List.append_nil, List.append_nil]
  | cons key rest ih =>
      intro seen reads hseen
      by_cases hagain : key ∈ seen
      · refine .inr ⟨limits.repeatedRead, ?_, .repeated (List.nil_append _).symm (.nil hseen) ?_⟩
        · rw [resolveKeys, if_pos hagain]
        · rwa [List.append_nil]
      · cases hresult : resolve key with
        | error error =>
            refine .inr ⟨error, ?_, .unread (List.nil_append _).symm (.nil hseen) ?_ hresult⟩
            · rw [resolveKeys, if_neg hagain, hresult]
            · rwa [List.append_nil]
        | ok result =>
            have hnext : resolveKeys limits resolve (key :: rest) (seen, reads) =
                resolveKeys limits resolve rest (seen ++ [key], reads ++ [result]) := by
              rw [resolveKeys, if_neg hagain, hresult]
            have hseen' : (seen ++ [key]).Nodup := by
              rw [List.nodup_append]
              refine ⟨hseen, List.nodup_singleton key, ?_⟩
              intro first hfirst second hsecond hsame
              rw [hsame, List.mem_singleton.mp hsecond] at hfirst
              exact hagain hfirst
            rw [hnext]
            cases ih (seen ++ [key]) (reads ++ [result]) hseen' with
            | inl hanswered =>
                obtain ⟨results, hresults, hanswered⟩ := hanswered
                refine .inl ⟨result :: results, ?_, hanswered.cons hresult⟩
                rw [hresults, List.append_assoc, List.append_assoc]
                rfl
            | inr hblocked =>
                obtain ⟨error, herror, hblocked⟩ := hblocked
                exact .inr ⟨error, herror, hblocked.cons hresult⟩

/-! ## Rounds -/

variable (limits resolve envelope answer)

/-- Rounds that were answered in full: the calls, the keys that were asked for, and their
answers. -/
inductive Served : List Call → List Key → List Result → Prop
  | start : Served [] [] []
  | round {calls : List Call} {keys asked : List Key} {reads results : List Result}
      (served : Served calls keys reads)
      (asks : answer (calls ++ [envelope reads]) = .read asked) (nonempty : asked ≠ [])
      (bounded : reads.length + asked.length ≤ limits.maxReads)
      (answered : Answered resolve keys asked results) :
      Served (calls ++ [envelope reads]) (keys ++ asked) (reads ++ results)

/-- What the last answer of a provider decides: it ends the evaluation, it violates a limit, or
one of its keys cannot be read. -/
inductive Decides (keys : List Key) (reads : List Result) :
    RoundAnswer Key Error Outcome → Except Error Outcome → Prop
  | final (result : Except Error Outcome) : Decides keys reads (.final result) result
  | empty : Decides keys reads (.read []) (.error limits.emptyReadRound)
  | tooMany {asked : List Key} (nonempty : asked ≠ [])
      (exceeded : limits.maxReads < reads.length + asked.length) :
      Decides keys reads (.read asked) (.error limits.readLimitExceeded)
  | blocked {asked : List Key} {error : Error} (nonempty : asked ≠ [])
      (bounded : reads.length + asked.length ≤ limits.maxReads)
      (blocked : Blocked limits resolve keys asked error) :
      Decides keys reads (.read asked) (.error error)

/-- How an evaluation ends: the rounds are used up, or the answer to its last call decides. -/
inductive Ends (maxRounds : Nat) : List Call → Except Error Outcome → Prop
  | rounds {calls : List Call} {keys : List Key} {reads : List Result}
      (served : Served limits resolve envelope answer calls keys reads)
      (used : calls.length = maxRounds) : Ends maxRounds calls (.error limits.roundLimitExceeded)
  | decided {calls : List Call} {keys : List Key} {reads : List Result}
      {outcome : Except Error Outcome}
      (served : Served limits resolve envelope answer calls keys reads)
      (left : calls.length < maxRounds)
      (decides : Decides limits resolve keys reads (answer (calls ++ [envelope reads])) outcome) :
      Ends maxRounds (calls ++ [envelope reads]) outcome

variable {limits resolve envelope answer}

omit [DecidableEq Key] in
/-- Nothing is read twice. -/
theorem Served.nodup {calls : List Call} {keys : List Key} {reads : List Result}
    (h : Served limits resolve envelope answer calls keys reads) : keys.Nodup := by
  cases h with
  | start => exact List.nodup_nil
  | round _ _ _ _ hanswered => exact hanswered.distinct

/-- An evaluation goes on until it ends. -/
theorem evaluateRounds_ends {maxRounds rounds : Nat} :
    ∀ {calls : List Call} {keys : List Key} {reads : List Result},
      Served limits resolve envelope answer calls keys reads →
      calls.length + rounds = maxRounds →
      Ends limits resolve envelope answer maxRounds
        (evaluateRounds limits resolve envelope answer rounds calls (keys, reads)).1
        (evaluateRounds limits resolve envelope answer rounds calls (keys, reads)).2 := by
  induction rounds with
  | zero => exact fun hserved hrounds => .rounds hserved hrounds
  | succ rounds ih =>
      intro calls keys reads hserved hrounds
      have hleft : calls.length < maxRounds := by omega
      rw [evaluateRounds]
      dsimp only
      cases hanswer : answer (calls ++ [envelope reads]) with
      | final result =>
          refine .decided hserved hleft ?_
          rw [hanswer]
          exact .final result
      | read asked =>
          dsimp only
          by_cases hempty : asked = []
          · rw [hempty] at hanswer ⊢
            exact .decided hserved hleft (hanswer ▸ .empty)
          · rw [if_neg fun h => hempty (List.isEmpty_iff.mp h)]
            by_cases hover : limits.maxReads < reads.length + asked.length
            · rw [if_pos hover]
              exact .decided hserved hleft (hanswer ▸ .tooMany hempty hover)
            · have hbounded := Nat.le_of_not_lt hover
              rw [if_neg hover]
              cases resolveKeys_cases asked keys reads hserved.nodup with
              | inl hanswered =>
                  obtain ⟨results, hresults, hanswered⟩ := hanswered
                  rw [hresults]
                  refine ih (.round hserved hanswer hempty hbounded hanswered) ?_
                  rw [List.length_append, List.length_singleton]
                  omega
              | inr hblocked =>
                  obtain ⟨error, herror, hblocked⟩ := hblocked
                  rw [herror]
                  exact .decided hserved hleft (hanswer ▸ .blocked hempty hbounded hblocked)

end Rounds

/-! ## The protocol -/

/-- What holds of the calls of an evaluation: they are bounded, the first has no reads, each
later one repeats the reads of the one before and adds the answers to what was asked then, and
no call has too many reads or two with the same key. -/
structure KeepsReadProtocol {Key : Type u} {Result : Type v} {Call : Type w}
    (maxRounds maxReads : Nat) (asks : List Call → List Key → Prop)
    (answers : Key → Result → Prop) (readsOf : Call → List Result) (keyOf : Result → Key)
    (calls : List Call) : Prop where
  rounds : calls.length ≤ maxRounds
  first : ∀ call later, calls = call :: later → readsOf call = []
  next : ∀ before call following after, calls = before ++ call :: following :: after →
    ∃ asked results, asks (before ++ [call]) asked ∧ asked ≠ [] ∧
      List.Forall₂ answers asked results ∧ readsOf following = readsOf call ++ results
  distinct : ∀ call ∈ calls, ((readsOf call).map keyOf).Nodup
  bounded : ∀ call ∈ calls, (readsOf call).length ≤ maxReads

/-- What decides an outcome: a check that fails before the first call, or the way in which the
evaluation ends. -/
inductive DecidedBy {Key : Type u} {Result : Type v} {Call : Type w} {Error : Type x}
    {Outcome : Type y} {Opened : Type z} (opening : Except Error Opened)
    (limits : RoundLimits Error) (resolve : Key → Except Error Result)
    (envelope : List Result → Call) (answer : Opened → List Call → RoundAnswer Key Error Outcome)
    (maxRounds : Nat) : List Call → Except Error Outcome → Prop
  | refused {error : Error} (failed : opening = .error error) :
      DecidedBy opening limits resolve envelope answer maxRounds [] (.error error)
  | ended {opened : Opened} (passed : opening = .ok opened) {calls : List Call}
      {outcome : Except Error Outcome}
      (ends : Ends limits resolve envelope (answer opened) maxRounds calls outcome) :
      DecidedBy opening limits resolve envelope answer maxRounds calls outcome

namespace KeepsReadProtocol

variable {Key : Type u} {Result : Type v} {Call : Type w} {maxRounds maxReads : Nat}
  {asks : List Call → List Key → Prop} {answers : Key → Result → Prop}
  {readsOf : Call → List Result} {keyOf : Result → Key}

theorem nil : KeepsReadProtocol maxRounds maxReads asks answers readsOf keyOf [] where
  rounds := Nat.zero_le maxRounds
  first _ _ hcalls := by cases hcalls
  next before _ _ _ hcalls := by cases before <;> cases hcalls
  distinct _ hcall := absurd hcall List.not_mem_nil
  bounded _ hcall := absurd hcall List.not_mem_nil

theorem singleton {call : Call} (hrounds : 1 ≤ maxRounds) (hreads : readsOf call = []) :
    KeepsReadProtocol maxRounds maxReads asks answers readsOf keyOf [call] where
  rounds := hrounds
  first _ _ hcalls := by
    cases hcalls
    exact hreads
  next before _ _ _ hcalls := by
    have hlength := congrArg List.length hcalls
    simp only [List.length_append, List.length_cons, List.length_nil] at hlength
    omega
  distinct other hother := by
    rw [List.mem_singleton.mp hother, hreads]
    exact List.nodup_nil
  bounded other hother := by
    rw [List.mem_singleton.mp hother, hreads]
    exact Nat.zero_le maxReads

/-- One more call keeps the protocol when it adds the answers to what was asked last. -/
theorem snoc {calls : List Call} {call following : Call} {asked : List Key}
    {results : List Result}
    (h : KeepsReadProtocol maxRounds maxReads asks answers readsOf keyOf (calls ++ [call]))
    (hrounds : (calls ++ [call] ++ [following]).length ≤ maxRounds)
    (hasks : asks (calls ++ [call]) asked) (hasked : asked ≠ [])
    (hanswers : List.Forall₂ answers asked results)
    (hreads : readsOf following = readsOf call ++ results)
    (hdistinct : ((readsOf following).map keyOf).Nodup)
    (hbounded : (readsOf following).length ≤ maxReads) :
    KeepsReadProtocol maxRounds maxReads asks answers readsOf keyOf
      (calls ++ [call] ++ [following]) where
  rounds := hrounds
  first other later hcalls := by
    cases calls with
    | nil =>
        cases hcalls
        exact h.first call [] rfl
    | cons head tail =>
        obtain ⟨rfl, -⟩ := List.cons_eq_cons.mp hcalls
        exact h.first head (tail ++ [call]) rfl
  next before other next after hcalls := by
    cases after.eq_nil_or_concat' with
    | inl hlast =>
        have hsplit : calls ++ [call] ++ [following] = before ++ [other] ++ [next] := by
          rw [hcalls, hlast, List.append_assoc]
          rfl
        obtain ⟨hcalls', hnext⟩ := List.append_inj' hsplit rfl
        obtain ⟨rfl, hother⟩ := List.append_inj' hcalls' rfl
        cases hnext
        cases hother
        exact ⟨asked, results, hasks, hasked, hanswers, hreads⟩
    | inr hmore =>
        obtain ⟨init, last, rfl⟩ := hmore
        refine h.next before other next init ?_
        rw [← List.cons_append, ← List.cons_append, ← List.append_assoc] at hcalls
        exact (List.append_inj' hcalls rfl).1
  distinct other hother := by
    cases List.mem_append.mp hother with
    | inl hbefore => exact h.distinct other hbefore
    | inr hlast =>
        rw [List.mem_singleton.mp hlast]
        exact hdistinct
  bounded other hother := by
    cases List.mem_append.mp hother with
    | inl hbefore => exact h.bounded other hbefore
    | inr hlast =>
        rw [List.mem_singleton.mp hlast]
        exact hbounded

end KeepsReadProtocol

section Kept

variable {Key : Type u} {Result : Type v} {Call : Type w} {Error : Type x}
  {Outcome : Type y} {limits : RoundLimits Error} {resolve : Key → Except Error Result}
  {envelope : List Result → Call} {answer : List Call → RoundAnswer Key Error Outcome}
  {maxRounds : Nat} {asks : List Call → List Key → Prop} {answers : Key → Result → Prop}
  {readsOf : Call → List Result} {keyOf : Result → Key} {calls : List Call}

/-- The answers have the keys that were asked for, in order. -/
theorem keys_of_answered {asked : List Key} {results : List Result}
    (hanswers : ∀ key result, resolve key = .ok result → answers key result ∧ keyOf result = key)
    (h : List.Forall₂ (fun key result => resolve key = .ok result) asked results) :
    List.Forall₂ answers asked results ∧ results.map keyOf = asked := by
  induction h with
  | nil => exact ⟨.nil, rfl⟩
  | cons hresult _ ih =>
      obtain ⟨hanswer, hkey⟩ := hanswers _ _ hresult
      refine ⟨.cons hanswer ih.1, ?_⟩
      rw [List.map_cons, hkey, ih.2]

/-- The keys of a call's reads are the keys that were asked for. -/
theorem Served.keys {keys : List Key} {reads : List Result}
    (hanswers : ∀ key result, resolve key = .ok result → answers key result ∧ keyOf result = key)
    (h : Served limits resolve envelope answer calls keys reads) :
    reads.map keyOf = keys ∧ reads.length ≤ limits.maxReads := by
  induction h with
  | start => exact ⟨rfl, Nat.zero_le _⟩
  | round _ _ _ hbounded hanswered ih =>
      constructor
      · rw [List.map_append, ih.1, (keys_of_answered hanswers hanswered.resolved).2]
      · rwa [List.length_append, ← hanswered.resolved.length_eq]

/-- The call after rounds that were answered in full keeps the protocol. -/
theorem Served.keeps {keys : List Key} {reads : List Result}
    (hasks : ∀ calls asked, answer calls = .read asked → asks calls asked)
    (hanswers : ∀ key result, resolve key = .ok result → answers key result ∧ keyOf result = key)
    (hreads : ∀ reads, readsOf (envelope reads) = reads)
    (h : Served limits resolve envelope answer calls keys reads)
    (hleft : calls.length < maxRounds) :
    KeepsReadProtocol maxRounds limits.maxReads asks answers readsOf keyOf
      (calls ++ [envelope reads]) := by
  induction h with
  | start => exact .singleton hleft (hreads [])
  | @round calls _ asked reads results hserved hanswer hnonempty hbounded hanswered ih =>
      rw [List.length_append, List.length_singleton] at hleft
      obtain ⟨hkeys, hlength⟩ :=
        (hserved.round hanswer hnonempty hbounded hanswered).keys hanswers
      refine (ih (by omega)).snoc ?_ (hasks _ _ hanswer) hnonempty
        (keys_of_answered hanswers hanswered.resolved).1 ?_ ?_ ?_
      · rw [List.length_append, List.length_append, List.length_singleton,
          List.length_singleton]
        exact hleft
      · rw [hreads, hreads]
      · rw [hreads, hkeys]
        exact hanswered.distinct
      · rwa [hreads]

/-- The calls of an evaluation keep the protocol, however it ends. -/
theorem Ends.keeps {outcome : Except Error Outcome}
    (hasks : ∀ calls asked, answer calls = .read asked → asks calls asked)
    (hanswers : ∀ key result, resolve key = .ok result → answers key result ∧ keyOf result = key)
    (hreads : ∀ reads, readsOf (envelope reads) = reads)
    (h : Ends limits resolve envelope answer maxRounds calls outcome) :
    KeepsReadProtocol maxRounds limits.maxReads asks answers readsOf keyOf calls := by
  cases h with
  | decided hserved hleft _ => exact hserved.keeps hasks hanswers hreads hleft
  | rounds hserved hused =>
      cases hserved with
      | start => exact .nil
      | @round calls _ _ reads _ hserved _ _ _ _ =>
          rw [List.length_append, List.length_singleton] at hused
          exact hserved.keeps hasks hanswers hreads (by omega)

/-- So do they when a check may fail before the first call. -/
theorem DecidedBy.keeps {Opened : Type z} {opening : Except Error Opened}
    {answer : Opened → List Call → RoundAnswer Key Error Outcome} {outcome : Except Error Outcome}
    {maxReads : Nat}
    (hasks : ∀ opened calls asked, answer opened calls = .read asked → asks calls asked)
    (hanswers : ∀ key result, resolve key = .ok result → answers key result ∧ keyOf result = key)
    (hreads : ∀ reads, readsOf (envelope reads) = reads) (hmax : limits.maxReads = maxReads)
    (h : DecidedBy opening limits resolve envelope answer maxRounds calls outcome) :
    KeepsReadProtocol maxRounds maxReads asks answers readsOf keyOf calls := by
  rw [← hmax]
  cases h with
  | refused _ => exact .nil
  | ended _ hends => exact hends.keeps (hasks _) hanswers hreads

end Kept

end Rintawa.WorldRuntime
