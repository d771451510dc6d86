/-
  Sessions over the API server.

  The steps of a session share the replies of the server: each step begins at the first reply
  that the steps before it have not used.
-/

import AdmissionControl.ApiServer.Collaborators
import AdmissionControl.Session

namespace AdmissionControl.ApiServer

/-- What one step gave: an answer, the log, and the requests that it sent. -/
structure StepReport where
  result : Except Failure SessionAnswer
  log : List LogRecord
  requests : List Request

namespace Client

/-- One step, over the replies that are still to come. -/
def step (client : Client) (replies : List Reply) (request : SessionRequest) :
    StepReport × List Reply :=
  let outcome := request.consult.run client.handler ⟨replies, []⟩
  (⟨outcome.result, outcome.log, outcome.state.sent⟩, outcome.state.replies)

def steps (client : Client) (replies : List Reply) : List SessionRequest → List StepReport
  | [] => []
  | request :: rest =>
    let (report, left) := client.step replies request
    report :: client.steps left rest

end Client

end AdmissionControl.ApiServer
