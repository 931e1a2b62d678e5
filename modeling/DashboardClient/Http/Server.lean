import DashboardClient.Http.Message

/-!
# Scripted servers

A server that answers from a list, one entry for each request that reaches it, and
keeps the requests. When the list has ended nothing is found. A server that cannot be
reached receives nothing and answers nothing.
-/

namespace DashboardClient

/-- What a server does with a request: answer it, or close the connection. -/
inductive ServerReply where
  | respond (response : HttpResponse)
  | hangUp
  deriving DecidableEq, Repr

/-- A server with the replies that are left and the requests it received, the latest
first. -/
structure Server where
  isReachable : Bool := true
  replies : List ServerReply := []
  received : List HttpRequest := []
  deriving Repr

namespace Server

/-- The answer when the list has ended. -/
def notFound : HttpResponse :=
  { status := 404 }

/-- A request is sent to the server. No response comes back if the server cannot be
reached or hangs up. -/
def receive (s : Server) (r : HttpRequest) : Option HttpResponse × Server :=
  if s.isReachable then
    let received := r :: s.received
    match s.replies with
    | [] => (some notFound, { s with received })
    | .respond response :: rest => (some response, { s with received, replies := rest })
    | .hangUp :: rest => (none, { s with received, replies := rest })
  else (none, s)

end Server

end DashboardClient
