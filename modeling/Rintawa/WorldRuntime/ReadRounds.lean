/-
# Rounds of reads

A provider that needs parts of a snapshot is called again and again with all
reads it has been given. Each answer either asks for further reads or ends the
evaluation. The number of calls and of reads is bounded, and no read is answered
twice.
-/

import Rintawa.Lib.Table

namespace Rintawa.WorldRuntime

universe u v w x y

/-- What a provider answers to one call. -/
inductive RoundAnswer (Key : Type u) (Error : Type v) (Outcome : Type w)
  | read (keys : List Key)
  | final (result : Except Error Outcome)

/-- The limits of an evaluation and the errors of exceeding them. -/
structure RoundLimits (Error : Type v) where
  maxReads : Nat
  emptyReadRound : Error
  readLimitExceeded : Error
  repeatedRead : Error
  roundLimitExceeded : Error

section Rounds

variable {Key : Type u} [DecidableEq Key] {Result : Type v} {Call : Type w} {Error : Type x}
  {Outcome : Type y}

/-- Answer the keys of one round in order, after the keys answered before. -/
def resolveKeys (limits : RoundLimits Error) (resolve : Key → Except Error Result) :
    List Key → List Key × List Result → Except Error (List Key × List Result)
  | [], progress => .ok progress
  | key :: keys, (seen, reads) =>
      if key ∈ seen then .error limits.repeatedRead
      else
        match resolve key with
        | .error error => .error error
        | .ok result => resolveKeys limits resolve keys (seen ++ [key], reads ++ [result])

/-- Call the provider until it ends the evaluation or the rounds are used up. The
provider may remember its earlier calls; all calls are returned with the result. -/
def evaluateRounds (limits : RoundLimits Error) (resolve : Key → Except Error Result)
    (envelope : List Result → Call) (answer : List Call → RoundAnswer Key Error Outcome) :
    Nat → List Call → List Key × List Result → List Call × Except Error Outcome
  | 0, calls, _ => (calls, .error limits.roundLimitExceeded)
  | rounds + 1, calls, progress =>
      let calls := calls ++ [envelope progress.2]
      match answer calls with
      | .final result => (calls, result)
      | .read keys =>
          if keys.isEmpty then (calls, .error limits.emptyReadRound)
          else if progress.2.length + keys.length > limits.maxReads then
            (calls, .error limits.readLimitExceeded)
          else
            match resolveKeys limits resolve keys progress with
            | .error error => (calls, .error error)
            | .ok progress => evaluateRounds limits resolve envelope answer rounds calls progress

end Rounds

end Rintawa.WorldRuntime
