import TrustedRouter.Transport.Engine

/-!
# `TrustedRouter.Broadcast`: calls on one broadcast destination

The methods of `crates/trusted-router/src/client.rs` that name a destination by its id. Each
puts the id into a path with `resource_path` and hands the path to `Client::request` on the
control plane, which resolves it with `plane_urls`.
-/

set_option autoImplicit false

namespace TrustedRouter

open Rust.Str
open Rust.Result
open Http (Method)
open Serde (Value)
open Transport (Call ensureIdempotencyKey)

/-- `resource_path`. -/
def resourcePath (stem id : String) : Except Error String := do
  ensure (!(isEmpty id || containsChar id '/' || containsChar id '?' || containsChar id '#'))
    (.invalidConfiguration "invalid resource ID")
  pure (stem ++ "/" ++ id)

/-- What a method hands to `Client::request`. -/
structure Requested where
  plane : Plane
  path : String
  call : Call

/-- A call on one destination. -/
def destinationRequest (client : Client) (method : Method) (id : String) (body : Option Value)
    (options : CallOptions) : Except Error Requested := do
  let path ← resourcePath "/broadcast/destinations" id
  pure { plane := .control, path, call := { client, method, body, options } }

/-- `broadcast_destination`. -/
def broadcastDestination (client : Client) (id : String) (options : CallOptions) :
    Except Error Requested :=
  destinationRequest client .get id none options

/-- `update_broadcast_destination`, for a freshly minted identifier. -/
def updateBroadcastDestination (client : Client) (uuid id : String) (patch : Value)
    (options : CallOptions) : Except Error Requested :=
  destinationRequest client .patch id (some patch) (ensureIdempotencyKey uuid options)

/-- `delete_broadcast_destination`, for a freshly minted identifier. -/
def deleteBroadcastDestination (client : Client) (uuid id : String) (options : CallOptions) :
    Except Error Requested :=
  destinationRequest client .delete id none (ensureIdempotencyKey uuid options)

end TrustedRouter
