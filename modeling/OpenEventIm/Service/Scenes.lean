import OpenEventIm.Foundation.PendingCalls
import OpenEventIm.Service.World

/-!
# Executions whose calls are known

A scene is a world without the calls that led to it.  `Leads` is an execution
from one scene to another that makes the given calls, and `Poses` one that comes
to a further call.  Both are put together along the structure of the program, so
that an execution can be told by its calls.
-/

namespace OpenEventIm.Service.Scenes

open OpenEventIm.Foundation.Interaction
open OpenEventIm.Foundation.PendingCalls
open OpenEventIm.Sdk.Errors
open OpenEventIm.Service.Calls
open OpenEventIm.Service.World

/-! ## Scenes -/

/-- A world without the calls so far. -/
structure Scene (setting : Setting) where
  log : Log
  provider : setting.provider.State

variable {setting : Setting} {Result Next : Type}
  {before middle ready after : Scene setting} {calls more : List Exchange}

/-- The world of a scene after some calls. -/
def Scene.world (scene : Scene setting) (trace : List Exchange) :
    WorldState setting where
  log := scene.log
  provider := scene.provider
  trace := trace

/-- The call is answered in one scene and leaves the other one. -/
structure Replies (before : Scene setting) (request : Call)
    (answer : Answer request) (after : Scene setting) : Prop where
  server : ServerAnswers setting.committable before.log request answer after.log
  provider : if request.isProvider then
      setting.provider.Answers before.provider request answer after.provider
    else after.provider = before.provider

/-- A provider is asked and stays as it is. -/
theorem replies_provider {request : Call} {answer : Answer request}
    (isProvider : request.isProvider = true)
    (answers : setting.provider.Answers before.provider request answer
      before.provider) : Replies before request answer before where
  server := by
    cases request with
    | getStatus | publishAutoSeq | fetch => cases isProvider
    | _ => rfl
  provider := by
    rw [if_pos isProvider]
    exact answers

/-- The server is asked, and the log stays as it is. -/
theorem replies_server {request : Call} {answer : Answer request}
    (isServer : request.isProvider = false)
    (server : ServerAnswers setting.committable before.log request answer
      before.log) : Replies before request answer before where
  server := server
  provider := by
    rw [isServer, if_neg Bool.false_ne_true]

/-- Nobody has asked the process to stop. -/
theorem replies_goesOn : Replies before .stopIsSet false before :=
  replies_server rfl rfl

theorem replies_status {principal : Nat} {token : String} :
    Replies before (.getStatus principal token) (.ok ⟨before.log.last⟩)
      before :=
  replies_server rfl ⟨rfl, rfl⟩

theorem Replies.answers {request : Call} {answer : Answer request}
    (replies : Replies before request answer after) (trace : List Exchange) :
    Answers (before.world trace) request answer
      (after.world (trace ++ [⟨request, answer⟩])) :=
  ⟨replies.server, replies.provider, rfl⟩

/-! ## Executions -/

/-- The program leads from one scene to the other by the calls. -/
def Leads (program : Action Result) (before : Scene setting)
    (calls : List Exchange) (after : Scene setting)
    (outcome : Except PyError Result) : Prop :=
  ∀ trace, Runs (world setting) (before.world trace) program
    (after.world (trace ++ calls)) outcome

/-- After the calls, the program makes a further one. -/
def Poses (program : Action Result) (before : Scene setting)
    (calls : List Exchange) (ready : Scene setting) (request : Call) : Prop :=
  ∀ trace, Issues (world setting) (before.world trace) program
    (ready.world (trace ++ calls)) request

section Executions

variable {program : Action Result} {result : Result}
  {continuation : Result → Action Next} {handler : PyError → Action Result}
  {request issued : Call} {answer : Answer request}
  {next : Answer request → Action Result} {outcome : Except PyError Result}

/-- The calls may be written in another way. -/
theorem Leads.calls_eq (leads : Leads program before calls after outcome)
    (same : calls = more) : Leads program before more after outcome :=
  same ▸ leads

theorem leads_ret : Leads (.ret result) before [] before (.ok result) := by
  intro trace
  rw [List.append_nil]
  exact .ret

theorem leads_call (replies : Replies before request answer middle)
    (rest : Leads (next answer) middle calls after outcome) :
    Leads (.call request next) before (⟨request, answer⟩ :: calls) after
      outcome := by
  intro trace
  have run := rest (trace ++ [⟨request, answer⟩])
  rw [List.append_assoc] at run
  exact .call .refl (replies.answers trace) run

/-- Others publish a message before the call. -/
theorem leads_published {message : Message} {log : Log}
    (allowed : setting.foreign before.log message)
    (appends : before.log.Appends ⟨message, false⟩ log)
    (rest : Leads (.call request next) ⟨log, before.provider⟩ calls after
      outcome) : Leads (.call request next) before calls after outcome := by
  intro trace
  rcases runs_call (rest trace) with
    ⟨ready, answer, answered, evolves, answers, run⟩
  refine .call (.head ?_ evolves) answers run
  exact Interferes.published allowed appends

theorem Leads.bind {outcome : Except PyError Next}
    (first : Leads program before calls middle (.ok result))
    (rest : Leads (continuation result) middle more after outcome) :
    Leads (program >>= continuation) before (calls ++ more) after outcome := by
  intro trace
  rw [← List.append_assoc]
  exact .bind (first trace) (rest (trace ++ calls))

theorem Leads.handle (leads : Leads program before calls after (.ok result)) :
    Leads (program.handle handler) before calls after (.ok result) :=
  fun trace => .handle (leads trace)

/-- A failure, and what the handler makes of it. -/
theorem Leads.recover {error : PyError}
    (first : Leads program before calls middle (.error error))
    (rest : Leads (handler error) middle more after outcome) :
    Leads (program.handle handler) before (calls ++ more) after outcome := by
  intro trace
  rw [← List.append_assoc]
  exact .recover (first trace) (rest (trace ++ calls))

theorem Poses.calls_eq (poses : Poses program before calls ready issued)
    (same : calls = more) : Poses program before more ready issued :=
  same ▸ poses

theorem poses_now : Poses (.call request next) before [] before request := by
  intro trace
  rw [List.append_nil]
  exact .now .refl

theorem poses_call (replies : Replies before request answer middle)
    (rest : Poses (next answer) middle calls ready issued) :
    Poses (.call request next) before (⟨request, answer⟩ :: calls) ready
      issued := by
  intro trace
  have issues := rest (trace ++ [⟨request, answer⟩])
  rw [List.append_assoc] at issues
  exact .later .refl (replies.answers trace) issues

theorem Poses.bind (poses : Poses program before calls ready issued) :
    Poses (program >>= continuation) before calls ready issued :=
  fun trace => (poses trace).bind

theorem Poses.handle (poses : Poses program before calls ready issued) :
    Poses (program.handle handler) before calls ready issued :=
  fun trace => (poses trace).handle

/-- The further call is made behind a completed part of the program. -/
theorem Leads.poses (first : Leads program before calls middle (.ok result))
    (rest : Poses (continuation result) middle more ready issued) :
    Poses (program >>= continuation) before (calls ++ more) ready issued := by
  intro trace
  rw [← List.append_assoc]
  exact .after (first trace) (rest (trace ++ calls))

end Executions

/-! ## Stop requests -/

/-- The answer is not that a stop has been requested. -/
def goesOn : (request : Call) → Answer request → Bool
  | .stopIsSet, stopped => !stopped
  | _, _ => true

theorem notStopped_of_goesOn
    (all : (calls.all fun call => goesOn call.request call.answer) = true) :
    (⟨.stopIsSet, true⟩ : Exchange) ∉ calls := by
  intro member
  exact absurd (List.all_eq_true.mp all _ member) (by simp [goesOn])

end OpenEventIm.Service.Scenes
