import Oboobot.Domain.Types

/-! The failures a broker call can report. -/

namespace Oboobot.Broker

open Domain

inductive BrokerError where
  | connectionFailed (detail : String)
  | timeout (milliseconds : Nat)
  | rateLimited (milliseconds : Nat)
  | rejected (reason : String)
  | malformedResponse (detail : String)
  | notFound (id : Uuid)
  | notImplemented (detail : String)
  deriving DecidableEq

end Oboobot.Broker
