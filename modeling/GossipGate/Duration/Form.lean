import GossipGate.Duration.Written
import GossipGate.Json.Record

namespace GossipGate

namespace Duration

def toJson (d : Duration) : Json := .text d.written

def ofJson : JsonReader Duration := fun json => do
  ofWritten (← ReadError.present json.text?)

end Duration

end GossipGate
