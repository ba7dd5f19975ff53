import DeviceGateway.Binary.Base64
import DeviceGateway.Hash.Sha256
import DeviceGateway.Json.Printer

/-
  The reply to a discovery query. Its key is the hash of the query, so it names no node.
-/

namespace DeviceGateway.Discovery

/-- The longest query that is read; of a longer datagram this much. -/
def maxQueryBytes : Nat := 2048

/-- The reply to a query from the node of a name, with the endpoint for clients outside. -/
def beacon (query : Bytes) (name endpoint : String) : Json :=
  Json.ofPairs [("key", .str (asciiText (Base64.encode (Hash.sha256 query)))),
    ("name", .str name), ("ext", .str endpoint)]

end DeviceGateway.Discovery
