import WaveCache.Packet

/-!
# Responses

What a cache answers.  A response repeats the identifier of its request and says in a return code
how the request went.

The responses are `SensorResponse`, `DataResponse`, `BulkDataResponse` (`BulkResponse`),
`ChannelListResponse` (`ListResponse`), `FailureResponse` and `CacheResponse` (`Response`).
-/

namespace WaveCache

/-- How a request went. -/
inductive ReturnCode where
  | success
  | unknownChannel
  | invalidRange
  | invalidMessage
  | notRunning
  | unauthorized
  | internalError
deriving DecidableEq, Inhabited

namespace ReturnCode

/-- The name of a code. -/
def name : ReturnCode → String
  | success => "Success"
  | unknownChannel => "UnknownChannel"
  | invalidRange => "InvalidRange"
  | invalidMessage => "InvalidMessage"
  | notRunning => "NotRunning"
  | unauthorized => "Unauthorized"
  | internalError => "InternalError"

/-- The number of a code. -/
def number : ReturnCode → Nat
  | success => 0
  | unknownChannel => 1
  | invalidRange => 2
  | invalidMessage => 3
  | notRunning => 4
  | unauthorized => 5
  | internalError => 6

/-- The name of a code with its number. -/
def display (code : ReturnCode) : String :=
  code.name ++ "(" ++ toString code.number ++ ")"

/-- Whether a request failed.  To know no channel of that name is an answer, not a failure. -/
def isFailure : ReturnCode → Bool
  | success => false
  | unknownChannel => false
  | _ => true

end ReturnCode

/-- The packets of a channel. -/
structure SensorResponse where
  identifier : UInt64
  channel : ChannelKey
  packets : List Packet
  code : ReturnCode
deriving DecidableEq

/-- The packets of a channel that was given by its dotted name. -/
structure DataResponse where
  identifier : UInt64
  name : String
  packets : List Packet
  code : ReturnCode
deriving DecidableEq

/-- The answers to the parts of a bulk request, in order. -/
structure BulkResponse where
  identifier : UInt64
  responses : List SensorResponse
  code : ReturnCode
deriving DecidableEq

/-- The live channels. -/
structure ListResponse where
  identifier : UInt64
  channels : List ChannelKey
  code : ReturnCode
deriving DecidableEq

/-- A request that was not served, and why. -/
structure FailureResponse where
  identifier : UInt64
  code : ReturnCode
  details : String
deriving DecidableEq

/-- Any response. -/
inductive Response where
  | sensor (response : SensorResponse)
  | data (response : DataResponse)
  | bulk (response : BulkResponse)
  | channelList (response : ListResponse)
  | failure (response : FailureResponse)
deriving DecidableEq

namespace Response

/-- The identifier of a response. -/
def identifier : Response → UInt64
  | sensor r => r.identifier
  | data r => r.identifier
  | bulk r => r.identifier
  | channelList r => r.identifier
  | failure r => r.identifier

/-- The return code of a response. -/
def code : Response → ReturnCode
  | sensor r => r.code
  | data r => r.code
  | bulk r => r.code
  | channelList r => r.code
  | failure r => r.code

end Response

end WaveCache
