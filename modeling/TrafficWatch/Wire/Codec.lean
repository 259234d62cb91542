import TrafficWatch.Json.Decode
import TrafficWatch.Json.Value
import TrafficWatch.Wire.Connection
import TrafficWatch.Wire.Messages

/-!
Messages as JSON. Lists and records that the server has none of come as null.
-/

namespace TrafficWatch.Wire

open Json

abbrev Reader (α : Type) := Doc → Except DecodeError α

private def textField {σ : Type} (name : String) (put : String → σ → σ) : Field Doc DecodeError σ :=
  .make .defaulted [name] Doc.asText put

private def nullableText {σ : Type} (name : String) (put : String → σ → σ) :
    Field Doc DecodeError σ :=
  .make .defaulted [name] (Doc.orDefault "" Doc.asText) put

def Metadata.schema : Schema Doc DecodeError Metadata where
  name := "Metadata"
  blank := {}
  fields := [
    nullableText "Network" fun s m => { m with network := s },
    nullableText "Type" fun s m => { m with kind := s },
    nullableText "Client" fun s m => { m with client := s },
    nullableText "Source" fun s m => { m with source := s },
    nullableText "Target" fun s m => { m with target := s }]

def Metadata.read : Reader Metadata := Doc.asRecord schema

def Metadata.json (m : Metadata) : Value := .object [
  ("Network", .text m.network), ("Type", .text m.kind), ("Client", .text m.client),
  ("Source", .text m.source), ("Target", .text m.target)]

def ConnectionRecord.schema : Schema Doc DecodeError ConnectionRecord where
  name := "RawConnection"
  blank := {}
  fields := [
    .make .defaulted ["ID"] (Doc.asOption Doc.asText) fun v r => { r with id := v },
    .make .defaulted ["Metadata"] (Doc.orDefault {} Metadata.read) fun v r =>
      { r with metadata := v },
    .make .defaulted ["Upload"] Doc.asWord fun v r =>
      { r with counters := { r.counters with upload := v } },
    .make .defaulted ["Download"] Doc.asWord fun v r =>
      { r with counters := { r.counters with download := v } },
    .make .defaulted ["Start"] (Doc.asOption Doc.asInstant) fun v r => { r with start := v }]

def ConnectionRecord.read : Reader ConnectionRecord := Doc.asRecord schema

def ConnectionRecord.json (r : ConnectionRecord) : Value := .object [
  ("ID", .option .text r.id), ("Metadata", r.metadata.json), ("Upload", .word r.counters.upload),
  ("Download", .word r.counters.download), ("Start", .option .instant r.start)]

def Snapshot.schema : Schema Doc DecodeError Snapshot where
  name := "Snapshot"
  blank := {}
  fields := [
    .make .defaulted ["UploadTotal"] Doc.asWord fun v s =>
      { s with totals := { s.totals with upload := v } },
    .make .defaulted ["DownloadTotal"] Doc.asWord fun v s =>
      { s with totals := { s.totals with download := v } },
    .make .defaulted ["Connections"] (Doc.orDefault [] (Doc.asList ConnectionRecord.read)) fun v s =>
      { s with connections := v }]

def Snapshot.read : Reader Snapshot := Doc.asRecord schema

def Snapshot.json (s : Snapshot) : Value := .object [
  ("UploadTotal", .word s.totals.upload), ("DownloadTotal", .word s.totals.download),
  ("Connections", .list (s.connections.map (·.json)))]

def LogRecord.schema : Schema Doc DecodeError LogRecord where
  name := "LogRecord"
  blank := { level := "" }
  fields := [
    .make .required ["Type"] Doc.asText fun s r => { r with level := s },
    textField "Payload" fun s r => { r with payload := s }]

def LogRecord.read : Reader LogRecord := Doc.asRecord schema

def LogRecord.json (r : LogRecord) : Value := .object [
  ("Type", .text r.level), ("Payload", .text r.payload)]

def Toolchain.schema : Schema Doc DecodeError Toolchain where
  name := "GoInfo"
  blank := {}
  fields := [
    textField "OS" fun s t => { t with os := s },
    textField "ARCH" fun s t => { t with arch := s },
    textField "Version" fun s t => { t with version := s }]

def Toolchain.json (t : Toolchain) : Value := .object [
  ("OS", .text t.os), ("ARCH", .text t.arch), ("Version", .text t.version)]

def Revision.schema : Schema Doc DecodeError Revision where
  name := "GitInfo"
  blank := {}
  fields := [
    textField "Url" fun s r => { r with url := s },
    textField "Branch" fun s r => { r with branch := s },
    textField "Commit" fun s r => { r with commit := s }]

def Revision.json (r : Revision) : Value := .object [
  ("Url", .text r.url), ("Branch", .text r.branch), ("Commit", .text r.commit)]

def Version.schema : Schema Doc DecodeError Version where
  name := "Version"
  blank := {}
  fields := [
    textField "Name" fun s v => { v with name := s },
    textField "Version" fun s v => { v with version := s },
    textField "BuildTime" fun s v => { v with buildTime := s },
    .make .defaulted ["GO"] (Doc.asRecord Toolchain.schema) fun t v => { v with toolchain := t },
    .make .defaulted ["Git"] (Doc.asRecord Revision.schema) fun r v => { v with revision := r }]

def Version.read : Reader Version := Doc.asRecord schema

def Version.json (v : Version) : Value := .object [
  ("Name", .text v.name), ("Version", .text v.version), ("BuildTime", .text v.buildTime),
  ("GO", v.toolchain.json), ("Git", v.revision.json)]

def ApiError.schema : Schema Doc DecodeError ApiError where
  name := "ApiError"
  blank := {}
  fields := [
    .make .defaulted ["Code"] (Doc.asInteger (-9223372036854775808) 9223372036854775807 "i64")
      fun c e => { e with code := c },
    textField "Msg" fun s e => { e with message := s }]

def ApiError.read : Reader ApiError := Doc.asRecord schema

end TrafficWatch.Wire
