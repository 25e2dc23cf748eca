import SqlRelay.Mysql.Handshake
import SqlRelay.Postgresql.Startup

/-!
# What TLS is required for

Both modules can be configured to use TLS.  A PostgreSQL client is refused without it.  A MySQL client
is not, if it sends its credentials in the packet that asks for TLS, or does not ask at all.
-/

namespace SqlRelay.Tls

open SqlRelay.Foundation

/-- A protocol module and its parameters. -/
inductive Protocol where
  | mysql (listener : Mysql.Listener)
  | postgresql (listener : Postgresql.Listener)

namespace Protocol

def useTls : Protocol → Bool
  | mysql listener => listener.usetls
  | postgresql listener => listener.usetls

def clientSession (env : Environment) (client : Client) : Protocol → List Event
  | mysql listener => Mysql.clientSession listener env client
  | postgresql listener => Postgresql.clientSession listener env client

/-- What has to be so before a session, for the module that it is a session of. -/
def Secured (env : Environment) (client : Client) : Protocol → Prop
  | mysql listener => Mysql.Secured listener env client
  | postgresql _ => True

/-- Where TLS is configured, a client gets nothing before a TLS handshake has succeeded, exactly if the
first packet that it sends to the MySQL module asks for TLS or is refused. -/
theorem guarded_iff {protocol : Protocol} (usetls : protocol.useTls = true) (env : Environment)
    (client : Client) :
    Guarded (protocol.clientSession env client) ↔ protocol.Secured env client := by
  cases protocol with
  | mysql listener => exact Mysql.clientSession_guarded_iff usetls env client
  | postgresql listener =>
      exact iff_of_true (Postgresql.clientSession_guarded usetls env client) trivial

def trusting : Environment := ⟨fun _ => true, fun _ => true, fun _ => true, fun _ _ => 0, 0, 256⟩

def tlsMysql : Protocol := .mysql ⟨10, 41, true⟩

/-- A handshake response with these flags, up to the username. -/
def header (flags : List Byte) : List Byte := flags ++ List.replicate 28 0

/-- A client that asks for TLS, and can't open a session. -/
def askingClient : Client := ⟨[32, 0, 0, 1] ++ header [0, 0x0a, 0, 0], []⟩

theorem guarded_iff_asking : Guarded (tlsMysql.clientSession trusting askingClient) := by
  apply (guarded_iff rfl trusting askingClient).mpr
  intro session packet wire greeted received
  apply Or.inl
  cases greeted
  cases received
  constructor
  · decide
  · decide

/-- A client that has the flag, sends its credentials all the same, and then a query. -/
def plainClient : Client :=
  ⟨[38, 0, 0, 1] ++ header [0, 0x8a, 0, 0] ++ ascii "bob" ++ [0, 1, 65] ++
    [2, 0, 0, 0, 3, 49], []⟩

/-- It is let in, and its query is served. -/
theorem plainClient_admitted :
    ¬∀ protocol : Protocol, protocol.useTls = true → ∀ env client,
      Guarded (protocol.clientSession env client) := by
  intro guarded
  have events : tlsMysql.clientSession trusting plainClient =
      [.admitted, .authenticated, .served [3, 49]] := by
    decide
  have session := guarded tlsMysql rfl trusting plainClient
  rw [events] at session
  exact not_guarded (by simp) _ session

end Protocol

end SqlRelay.Tls
