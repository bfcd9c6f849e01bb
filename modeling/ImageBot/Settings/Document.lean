import ImageBot.Settings.Basic
import ImageBot.Yaml.Decode
/-!
# Settings in a YAML document

A document tells any part of the settings; the rest is as it is by default.
-/
namespace ImageBot.Settings

open Yaml

/-- The group `server`. -/
def serverRecord : Record ServerSettings :=
  ⟨"ServerSettings", defaultServer,
    [.of "port" (.natural "u16" (2 ^ 16)) fun a s => { s with port := a },
      .of "bind_address" .string fun a s => { s with bindAddress := a },
      .of "command_prefix" .string fun a s => { s with commandPrefix := a }]⟩

/-- The proxies in the group `outgoing`. -/
def proxyRecord : Record ProxySettings :=
  ⟨"ProxySettings", defaultProxies,
    [.of "http" (.optional .string) fun a s => { s with http := a },
      .of "https" (.optional .string) fun a s => { s with https := a },
      .of "all" (.optional .string) fun a s => { s with all := a }]⟩

/-- The group `outgoing`. -/
def outgoingRecord : Record OutgoingSettings :=
  ⟨"OutgoingSettings", defaultOutgoing,
    [.of "search_timeout" .float fun a s => { s with searchTimeout := a },
      .of "upload_timeout" .float fun a s => { s with uploadTimeout := a },
      .of "pool_maxsize" (.natural "usize" (2 ^ 64)) fun a s => { s with poolMaxsize := a },
      .of "verify_ssl" .bool fun a s => { s with verifySsl := a },
      .of "proxies" proxyRecord.decode fun a s => { s with proxies := a }]⟩

/-- The group `google`. -/
def googleRecord : Record GoogleSettings :=
  ⟨"GoogleSettings", defaultGoogle,
    [.of "api_key" .string fun a s => { s with apiKey := a },
      .of "cx" .string fun a s => { s with cx := a },
      .of "base_url" .string fun a s => { s with baseUrl := a },
      .of "img_size" .string fun a s => { s with imgSize := a }]⟩

/-- The group `matrix`. -/
def matrixRecord : Record MatrixSettings :=
  ⟨"MatrixSettings", defaultMatrix,
    [.of "homeserver_url" .string fun a s => { s with homeserverUrl := a },
      .of "access_token" .string fun a s => { s with accessToken := a },
      .of "deliver_messages" .bool fun a s => { s with deliverMessages := a }]⟩

/-- All groups. -/
def record : Record Settings :=
  ⟨"Settings", default,
    [.of "server" serverRecord.decode fun a s => { s with server := a },
      .of "outgoing" outgoingRecord.decode fun a s => { s with outgoing := a },
      .of "google" googleRecord.decode fun a s => { s with google := a },
      .of "matrix" matrixRecord.decode fun a s => { s with matrix := a }]⟩

/-- The settings in a text. -/
def ofYaml (text : List Char) : Except Yaml.Error Settings := record.ofText text

end ImageBot.Settings
