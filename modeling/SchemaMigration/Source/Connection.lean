import SchemaMigration.Text.Basic

/-!
# Connections

How to reach a database server. Settings that are not given, or empty, are left to the
client tools.

## Main Definitions

* `Connection` - the settings of a connection
* `Connection.given` - the settings that are given, with their texts
* `Connection.merged` - a connection with some settings replaced
* `Connection.arguments` - the settings as arguments of a client tool
* `Connection.summary` - the settings as reports show them, without the password
-/

namespace SchemaMigration

open Text

/-- A setting of a connection. -/
inductive ConnectionField
  | host
  | port
  | user
  | password
  | socket
  deriving DecidableEq

namespace ConnectionField

/-- The settings in the order in which they are written. -/
def all : List ConnectionField := [host, port, user, password, socket]

/-- The name of a setting. -/
def word : ConnectionField → Text
  | host => "host"
  | port => "port"
  | user => "user"
  | password => "password"
  | socket => "socket"

end ConnectionField

/-- The settings of a connection. -/
structure Connection where
  host : Option Text
  port : Option Int
  user : Option Text
  password : Option Text
  socket : Option Text
  deriving DecidableEq

namespace Connection

/-- The connection of which nothing is given. -/
def none : Connection := ⟨.none, .none, .none, .none, .none⟩

/-- The text of a setting, unless it is empty or zero. -/
def text? (connection : Connection) : ConnectionField → Option Text
  | .host => connection.host.filter (! ·.isEmpty)
  | .port => (connection.port.filter (· != 0)).map ofInt
  | .user => connection.user.filter (! ·.isEmpty)
  | .password => connection.password.filter (! ·.isEmpty)
  | .socket => connection.socket.filter (! ·.isEmpty)

/-- The settings that are given, with their texts. -/
def given (connection : Connection) : List (ConnectionField × Text) :=
  ConnectionField.all.filterMap fun field => (connection.text? field).map (field, ·)

/-- Whether any setting is given. -/
def isSet (connection : Connection) : Bool := ! connection.given.isEmpty

/-- A connection with the settings of another one where those are given. -/
def merged (connection override : Connection) : Connection where
  host := (override.host.filter (! ·.isEmpty)).or connection.host
  port := (override.port.filter (· != 0)).or connection.port
  user := (override.user.filter (! ·.isEmpty)).or connection.user
  password := (override.password.filter (! ·.isEmpty)).or connection.password
  socket := (override.socket.filter (! ·.isEmpty)).or connection.socket

/-- The settings as arguments of a client tool. -/
def arguments (connection : Connection) : List Text :=
  connection.given.map fun (field, text) => "--" ++ field.word ++ "=".toList ++ text

/-- The settings as reports show them, without the password. -/
def summary (connection : Connection) : Text :=
  join " " ((connection.given.filter (·.1 != .password)).map fun (field, text) =>
    field.word ++ "=".toList ++ text)

end Connection

end SchemaMigration
