import DiceTray.Journal
import DiceTray.Report

/-!
# The service

The two requests that other programs send. Faults that the program's own rules name become the
message of a refusal; all others are passed on.
-/

namespace DiceTray.Service

/-- How a request fails. -/
inductive Refusal
  | refused (message : String)
  /-- A fault that is not about the request. -/
  | fault (fault : Fault)
deriving DecidableEq

/-- The name under which the service logs. -/
def logger : String := "dice_notation.server"

/-- The answer to a request of some kind for a text, given what came of it. -/
def answer {α : Type} (kind text : String) : Except Fault α → Logged Refusal α
  | .ok value => .done value
  | .error fault =>
    if fault.isOwn then do
      Logged.note ⟨logger, .info,
        "Rejected " ++ kind ++ " request " ++ Text.quoted text ++ ": " ++ fault.message⟩
      Logged.failed (.refused fault.message)
    else Logged.failed (.fault fault)

/-- Answers the request to roll a text. -/
def roll {σ : Type} [RandomSource σ] (text : String) (source : σ) : Logged Refusal Report :=
  answer "roll" text (Report.roll text source).1

/-- Answers the request for the average of a text. -/
def average (text : String) : Logged Refusal AverageReport :=
  answer "average" text (AverageReport.ofText text)

end DiceTray.Service
