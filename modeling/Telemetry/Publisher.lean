import Telemetry.Config.Basic

/-!
# Publishers

A publisher takes messages, each a payload on a topic, and accepts or refuses every one. Three are
given: one that records what it accepts, one that only counts, for dry runs, and the client of a
broker that has not answered yet, which refuses everything.
-/

namespace Telemetry

structure Message where
  topic : String
  payload : Bytes
  deriving DecidableEq, Repr, Inhabited

/-- What every topic begins with: a text without the slashes at its end. -/
def topicRoot (text : String) : String :=
  String.ofList (text.toList.reverse.dropWhile (· == '/')).reverse

/-- Takes messages in one state after another. -/
structure Publisher (σ : Type) where
  name : String
  publish : σ → Message → Except BridgeError Unit × σ

namespace Publisher

/-- Records the messages on the topics that it does not refuse. -/
def recording (refuses : String → Bool) : Publisher (Array Message) where
  name := "recording"
  publish messages m :=
    if refuses m.topic then (.error .notConnected, messages) else (.ok (), messages.push m)

structure Tally where
  messages : Nat
  bytes : Nat
  deriving DecidableEq, Repr, Inhabited

def logging : Publisher Tally where
  name := "log"
  publish t m := (.ok (), ⟨t.messages + 1, t.bytes + m.payload.length⟩)

/-- The client of a broker that has not answered yet. -/
structure Client where
  id : String
  deriving DecidableEq, Repr, Inhabited

/-- The client that a configuration asks for. Without a name of its own it gets one that ends in the
given text. -/
def Client.new (config : MqttConfig) (generated : String) : Client :=
  ⟨config.clientId.getD ("rt-bridge-" ++ generated)⟩

/-- Refuses everything, for want of a connection. -/
def waiting : Publisher Client where
  name := "mqtt"
  publish c _ := (.error .notConnected, c)

end Publisher

end Telemetry
