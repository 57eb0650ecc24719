import WalletHeadless.Js.Text
import WalletHeadless.Notifications.Bus
import WalletHeadless.Services.Logger

/-!
# `index.js` and `plugins/`: the child process

The main process forks a child when plugins are enabled, and sends it each message of its bus; the child emits it on a
bus of its own. The plugins are loaded there and started one after the other, while messages may already come. The main
process ends when its child has.

* `loadPlugins`: the enabled plugins, in their order;
* `BusListener.eventHandler`: the event handlers of `hathor_debug.js`, `hathor_websocket.js`, `hathor_sqs.js` and
  `hathor_rabbitmq.js`;
* `Child.load`, `Child.step`, `Child.handleMessage`: the child process;
* `Pipeline.step`: both processes, with the channel between them.
-/

namespace WalletHeadless

open Coop Js

variable {D B : Type}

/-! ## The plugins -/

/-- The entry of a plugin; its name is never read. -/
structure PluginConfig where
  file : Option String := none
deriving DecidableEq

/-- What a file of the directory of the plugins is. -/
inductive Plugin
  | debug
  | ws
  | sqs
  | rabbitmq
  | custom (file : String)
deriving DecidableEq

def hathorPlugins : List (String × PluginConfig) :=
  [("debug", ⟨"hathor_debug.js"⟩), ("ws", ⟨"hathor_websocket.js"⟩), ("sqs", ⟨"hathor_sqs.js"⟩),
    ("rabbitmq", ⟨"hathor_rabbitmq.js"⟩)]

/-- `hathorPlugins[pluginId] || customPlugins[pluginId]`; what every object inherits has no `file`. -/
def pluginConfigAt (customPlugins : List (String × PluginConfig)) (pluginId : String) : Option PluginConfig :=
  ((hathorPlugins.lookup pluginId).or (if pluginId ∈ inherited then some {} else none)).or
    (customPlugins.lookup pluginId)

def importPlugin (pluginConfig : PluginConfig) : Except JsError Plugin :=
  match pluginConfig.file with
  | none => .error { kind := .TypeError, message := "The \"path\" argument must be of type string. Received undefined" }
  | some "hathor_debug.js" => .ok .debug
  | some "hathor_websocket.js" => .ok .ws
  | some "hathor_sqs.js" => .ok .sqs
  | some "hathor_rabbitmq.js" => .ok .rabbitmq
  | some file => .ok (.custom file)

/-- The imports of the plugins that are found; the others are skipped, for which a logger is needed. -/
def importPlugins (logging : Logging) (customPlugins : List (String × PluginConfig)) :
    List String → Except JsError (List (Except JsError Plugin))
  | [] => .ok []
  | pluginId :: enabledPlugins =>
    match pluginConfigAt customPlugins pluginId with
    | some pluginConfig => (importPlugins logging customPlugins enabledPlugins).map (importPlugin pluginConfig :: ·)
    | none =>
      match logging.buildAppLogger with
      | (.error e, _) => .error e
      | (.ok _, logging) => importPlugins logging customPlugins enabledPlugins

/-- The plugins, when all imports succeed. -/
def loadPlugins (logging : Logging) (enabled : List String) (customConfig : List (String × PluginConfig)) :
    Except JsError (List Plugin) := do
  let promises ← importPlugins logging customConfig enabled
  promises.mapM id

/-- The parameters of the plugins, on the command line or in the environment. -/
structure PluginParams where
  plugin_debug_long : Option String := none
  plugin_sqs_queue_url : Option String := none
  plugin_rabbitmq_url : Option String := none
  plugin_rabbitmq_queue : Option String := none
  plugin_rabbitmq_exchange : Option String := none
  plugin_rabbitmq_routing_key : Option String := none
deriving DecidableEq

/-- Messages go to a queue, or to an exchange with a routing key. -/
structure RabbitmqSettings where
  url : String
  queue : Option String
  exchange : Option String
  routingKey : Option String
  target : queue.isSome = !exchange.isSome
  routed : exchange.isSome = true → routingKey.isSome = true
deriving DecidableEq

/-- `getSettings` of `hathor_rabbitmq.js`. -/
def getRabbitmqSettings (argv env : PluginParams) : Except JsError RabbitmqSettings :=
  let url := (truthy argv.plugin_rabbitmq_url).or env.plugin_rabbitmq_url
  let queue := (truthy argv.plugin_rabbitmq_queue).or env.plugin_rabbitmq_queue
  let exchange := (truthy argv.plugin_rabbitmq_exchange).or env.plugin_rabbitmq_exchange
  let routingKey := argv.plugin_rabbitmq_routing_key.or env.plugin_rabbitmq_routing_key
  match url with
  | none => .error { message := "You must provide a RabbitMQ URL" }
  | some url =>
    if _h : queue.isSome = false ∧ exchange.isSome = false then
      .error { message := "You must provide either a RabbitMQ queue or exchange" }
    else if _h' : queue.isSome = true ∧ exchange.isSome = true then
      .error { message := "You must provide either a RabbitMQ queue or exchange, not both" }
    else if h : exchange.isSome = true ∧ routingKey.isSome = false then
      .error { message := "You must provide a RabbitMQ routing key if you provide exchange. " ++
        "A blank routing key is acceptable though." }
    else
      .ok ⟨url, queue, exchange, routingKey, by cases hq : queue.isSome <;> cases he : exchange.isSome <;> simp_all,
        fun he => by simpa [he, Option.isSome_iff_ne_none] using h⟩

/-- The configuration of the plugins, and the texts of `bigIntUtils.JSONBigInt` and `JSON`. -/
structure PluginEnv (D B : Type) where
  enabled_plugins : List String
  plugin_config : List (String × PluginConfig) := []
  argv : PluginParams := {}
  env : PluginParams := {}
  stringify : Notification D B → String
  parse : String → Option (Notification D B)
  /-- `JSON.stringify` of the type and the wallet id. -/
  stringifyShort : String → String → String

def PluginEnv.debugLong (env : PluginEnv D B) : Option String :=
  (truthy env.argv.plugin_debug_long).or env.env.plugin_debug_long

def PluginEnv.queueUrl (env : PluginEnv D B) : Option String :=
  (truthy env.argv.plugin_sqs_queue_url).or env.env.plugin_sqs_queue_url

/-- A listener on the bus of the child process. -/
inductive BusListener
  | debug
  | ws
  | sqs
  | rabbitmq (settings : RabbitmqSettings)
  | custom (file event : String)
deriving DecidableEq

/-- What a listener does. -/
inductive PluginAct (D B : Type)
  | info (message : String)
  | send (socket : Nat) (text : String)
  | sendMessage (QueueUrl : Option String) (MessageBody : String)
  | publish (exchange routingKey content : String)
  | sendToQueue (queue content : String)
  | custom (file : String) (data : Notification D B)
deriving DecidableEq

namespace BusListener

/-- The name that it listens to. -/
def event : BusListener → String
  | custom _ event => event
  | _ => EVENTBUS_EVENT_NAME

/-- `eventHandler`, and what `eventHandlerFactory` returns. -/
def eventHandler (env : PluginEnv D B) (sockets : List Nat) (data : Notification D B) : BusListener → List (PluginAct D B)
  | debug =>
    let message := env.stringify data
    if Js.length message < 1000 then [.info s!"plugin[debug]: {message}"]
    else match env.debugLong with
      | some "off" => []
      | some "all" => [.info s!"plugin[debug]: {message}"]
      | _ => [.info s!"plugin[debug]: {env.stringifyShort data.type data.walletId}"]
  | ws => sockets.map fun socket => .send socket (env.stringify data)
  | sqs => [.sendMessage env.queueUrl (env.stringify data)]
  | rabbitmq settings =>
    match h : settings.exchange with
    | some exchange => [.publish exchange (settings.routingKey.get (settings.routed (by rw [h]; rfl))) (env.stringify data)]
    | none => [.sendToQueue (settings.queue.get (by rw [settings.target, h]; rfl)) (env.stringify data)]
  | custom file _ => [.custom file data]

end BusListener

/-! ## The child process -/

/-- A listener that is attached, and what it has done. -/
structure Attached (D B : Type) where
  listener : BusListener
  done : List (PluginAct D B) := []
deriving DecidableEq

/-- Whether `main` still waits for the plugins, those whose `init` is still to be called, those whose `init` was called,
the channels of `hathor_rabbitmq.js` that are not created yet, the listeners in their order, and the `sockets` of
`hathor_websocket.js`. -/
structure Child (D B : Type) where
  running : Bool := true
  /-- The variables of `logger.js`, of this process. -/
  logging : Logging
  loading : Bool := true
  starting : List Plugin := []
  started : List Plugin := []
  connecting : List RabbitmqSettings := []
  listeners : List (Attached D B) := []
  sockets : List Nat := []
  connections : Nat := 0

/-- `main`: the plugins, and the next `init`; the callback of a channel; what a custom plugin does; the connections; and
the end. -/
inductive ChildStep
  | load
  | init
  | channelCreated (i : Nat)
  | listen (file event : String)
  | connection
  | close (socket : Nat)
  | exit
deriving DecidableEq

namespace Child

/-- `bus.on`. -/
def on (S : Child D B) (listener : BusListener) : Child D B := { S with listeners := S.listeners ++ [{ listener }] }

def exit (S : Child D B) : Child D B := { S with running := false }

/-- What `child.js` does when it is loaded: an error of `buildAppLogger` ends the process before `main` is called. -/
def load (logging : Logging) : Child D B :=
  match logging.buildAppLogger with
  | (.error _, logging) => { running := false, logging }
  | (.ok _, logging) => { logging }

/-- `main` after `loadPlugins`, whose error nobody handles. -/
def loaded (env : PluginEnv D B) (S : Child D B) : Child D B :=
  match loadPlugins S.logging env.enabled_plugins env.plugin_config with
  | .error _ => { S with loading := false }.exit
  | .ok starting => { S with loading := false, starting }

/-- `plugin.init(notificationBus)`. An `init` that throws ends the process. -/
def init (env : PluginEnv D B) (S : Child D B) : Plugin → Child D B
  | .debug => S.on .debug
  | .ws => S.on .ws
  | .sqs => S.on .sqs
  | .rabbitmq =>
    match getRabbitmqSettings env.argv env.env with
    | .error _ => S.exit
    | .ok settings => { S with connecting := S.connecting ++ [settings] }
  | .custom _ => S

/-- What the plugins and their connections do by themselves. -/
def step (env : PluginEnv D B) : ChildStep → Child D B → Option (Child D B)
  | .load, S => if S.loading then some (S.loaded env) else none
  | .init, S =>
    match S.starting with
    | [] => none
    | plugin :: starting => some ({ S with starting, started := S.started ++ [plugin] }.init env plugin)
  | .channelCreated i, S => S.connecting[i]?.map fun settings =>
      { S with connecting := S.connecting.eraseIdx i }.on (.rabbitmq settings)
  | .listen file event, S => if .custom file ∈ S.started then some (S.on (.custom file event)) else none
  | .connection, S =>
    -- the server has been created right after the listener was attached
    if .ws ∈ S.listeners.map Attached.listener then
      some { S with sockets := S.sockets ++ [S.connections], connections := S.connections + 1 }
    else none
  | .close socket, S => if socket ∈ S.sockets then some { S with sockets := S.sockets.filter (· ≠ socket) } else none
  | .exit, S => some S.exit

/-- `notificationBus.emit` in the child process: each listener of the name runs. -/
def emit (env : PluginEnv D B) (S : Child D B) (event : String × Notification D B) : Child D B :=
  { S with listeners := S.listeners.map fun a =>
      if a.listener.event = event.1 then { a with done := a.done ++ a.listener.eventHandler env S.sockets event.2 } else a }

/-- `handleMessage`: an error of `parse` is not caught, and ends the process. -/
def handleMessage (env : PluginEnv D B) (S : Child D B) (serializedData : String) : Child D B :=
  if (env.parse serializedData).isNone then S.exit
  else (WalletHeadless.handleMessage env.parse serializedData).foldl (emit env) S

end Child

/-! ## Both processes -/

/-- The main process with its bus, whether it has forked a child, is connected to it and has ended, and what is on the
channel to the child. -/
structure Pipeline (D B : Type) where
  bus : Bus D B := ⟨[], []⟩
  forked : Bool := true
  connected : Bool := true
  exited : Bool := false
  channel : List String := []
  child : Child D B

/-- `childExit` is the event `exit` of the child, whose listener ends the main process. -/
inductive PipelineStep (D B : Type)
  | main (l : BusStep D B)
  | message
  | child (c : ChildStep)
  | disconnect
  | childExit

namespace Pipeline

/-- The main process before the first event, with the child that it has forked if there are plugins to start; `logging`
are the variables of `logger.js` in the child when `child.js` is loaded. -/
def start (env : PluginEnv D B) (logging : Logging) : Pipeline D B :=
  if env.enabled_plugins = [] then { forked := false, connected := false, child := { running := false, logging } }
  else { child := .load logging }

/-- The listener of `index.js` on the bus: nothing is sent to a child that is lost. -/
def forward (env : PluginEnv D B) (S : Pipeline D B) (bus : Bus D B) : Pipeline D B :=
  let emitted := bus.state.drop S.bus.state.length
  { S with bus, channel := if S.connected then S.channel ++ pipe env.stringify emitted else S.channel }

def step (env : PluginEnv D B) : PipelineStep D B → Pipeline D B → Option (Pipeline D B)
  | .main l, S =>
    if S.exited then none else (S.bus.step (WalletHeadless.bus D B) Subscribed.handle l).map (S.forward env)
  | .message, S =>
    match S.child.running, S.channel with
    | true, serializedData :: channel => some { S with channel, child := S.child.handleMessage env serializedData }
    | _, _ => none
  | .child c, S => if S.child.running then (S.child.step env c).map fun child => { S with child } else none
  | .disconnect, S => if S.connected then some { S with connected := false } else none
  | .childExit, S =>
    if S.forked && !S.child.running && !S.exited then some { S with exited := true, connected := false } else none

/-- `S` is reached from the start. -/
inductive Run (env : PluginEnv D B) (logging : Logging) : Pipeline D B → Prop
  | start : Run env logging (start env logging)
  | step {S S' : Pipeline D B} {l : PipelineStep D B} (h : Run env logging S) (hs : S.step env l = some S') :
      Run env logging S'

/-- Take the steps one after the other. -/
def exec (env : PluginEnv D B) : List (PipelineStep D B) → Pipeline D B → Option (Pipeline D B)
  | [], S => some S
  | l :: ls, S => (S.step env l).bind (exec env ls)

end Pipeline

end WalletHeadless
