import BlockMail.Decode.Record
import BlockMail.Mail.Message
import BlockMail.Number.Port
import BlockMail.Text.Blank

/-!
# Relay settings

How to reach the server that mail is handed to, from a configuration or from
environment variables.
-/

set_option autoImplicit false

namespace BlockMail.Mail

/-- How a connection to a relay is secured. -/
inductive RelaySecurity where
  | startTls
  | tls
  | unsecured
deriving DecidableEq

namespace RelaySecurity

/-- All of them, in the order in which complaints list them. -/
def all : List RelaySecurity := [.startTls, .tls, .unsecured]

def name : RelaySecurity → String
  | .startTls => "starttls"
  | .tls => "tls"
  | .unsecured => "none"

def ofName? (name : String) : Option RelaySecurity :=
  all.find? fun security => security.name == name

/-- The usual port of a relay. -/
def defaultPort : RelaySecurity → Nat
  | .startTls => 587
  | .tls => 465
  | .unsecured => 25

/-- The security that a setting names, in letters of either case. -/
def ofSetting (setting : String) : Except TransportError RelaySecurity :=
  let lower := String.ofList (setting.toList.map Char.toLower)
  match ofName? lower with
  | some security => .ok security
  | none =>
      .error (.missingConfig
        ("SMTP_TLS must be starttls, tls or none (got " ++ Text.quoted lower ++
          ")"))

def toJson (security : RelaySecurity) : Json := .string security.name

variable {Source : Type} [Decode.Carrier Source]

def decode : Decode.Decoder Source RelaySecurity :=
  Decode.choice (all.map name) ofName?

end RelaySecurity

/-- How to reach a relay. -/
structure RelaySettings where
  host : String
  port : Option Nat
  username : Option String
  password : Option String
  security : RelaySecurity
deriving DecidableEq

namespace RelaySettings

/-- The settings that name nothing but a host. -/
def ofHost (host : String) : RelaySettings := ⟨host, none, none, none, .startTls⟩

def effectivePort (settings : RelaySettings) : Nat :=
  settings.port.getD settings.security.defaultPort

/-- The port that a setting names; white space around it does not count. -/
def portOfSetting (setting : String) : Except TransportError Nat :=
  match Number.readPort (Text.trimmed setting) with
  | .ok port => .ok port
  | .error _ =>
      .error (.missingConfig ("SMTP_PORT is not a port: " ++ Text.quoted setting))

/-- The environment variables that settings are taken from. -/
def variableNames : List String :=
  ["SMTP_HOST", "SMTP_PORT", "SMTP_TLS", "SMTP_USER", "SMTP_PASSWORD"]

/-- The settings in environment variables. Only the host is required. -/
def ofVariables (lookup? : String → Option String) :
    Except TransportError RelaySettings := do
  let host ←
    match (lookup? "SMTP_HOST").filter fun host => !Text.allBlank host with
    | some host => pure host
    | none => throw (.missingConfig "SMTP_HOST")
  let port ← (lookup? "SMTP_PORT").mapM portOfSetting
  let security ← (lookup? "SMTP_TLS").mapM RelaySecurity.ofSetting
  return ⟨host, port, lookup? "SMTP_USER", lookup? "SMTP_PASSWORD",
    security.getD .startTls⟩

def toJson (settings : RelaySettings) : Json :=
  .object
    ([("host", .string settings.host)] ++
      Json.memberIfSome "port" Json.ofNat settings.port ++
      Json.memberIfSome "username" .string settings.username ++
      Json.memberIfSome "password" .string settings.password ++
      [("tls", settings.security.toJson)])

section Fields

variable {Source : Type} [Decode.Carrier Source]

open Decode Decode.Fields

def portDecoder : Decoder Source Nat := fun source =>
  (wholeNumber "u16" 0 Number.largestPort source).map Int.toNat

def decode : Decoder Source RelaySettings :=
  ((((((Fields.none RelaySettings.mk).and (required "host" text)).and
    (optional "port" portDecoder)).and
    (optional "username" text)).and
    (optional "password" text)).and
    (defaulted "tls" RelaySecurity.startTls RelaySecurity.decode)).decode
    "SmtpConfig"

end Fields

end RelaySettings

end BlockMail.Mail
