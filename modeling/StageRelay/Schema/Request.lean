import StageRelay.Request
import StageRelay.Schema.Record

/-!
# Requests in documents

A request that is read from a document is taken as it stands: neither its method
nor the names of its headers are put into one case.
-/

namespace StageRelay

open Reader

def Reader.bytes : Reader ByteArray := (sequence byte).map List.toByteArray

def Upload.schema : Record Upload :=
  { typeName := "FileUpload"
    fields :=
      [.mandatory "field" [] text fun x f => { f with field := x },
        .defaulted "filename" [] (optional text) fun x f => { f with filename := x },
        .defaulted "content_type" [] (optional text) fun x f => { f with contentType := x },
        .defaulted "data" [] bytes fun x f => { f with data := x }]
    draft := ⟨"", none, none, .empty⟩ }

def Request.schema : Record Request :=
  { typeName := "PipelineRequest"
    fields :=
      [.mandatory "method" [] text fun x r => { r with method := x },
        .mandatory "uri" [] text fun x r => { r with uri := x },
        .defaulted "headers" [] (table text) fun x r => { r with headers := x },
        .defaulted "payload" [] bytes fun x r => { r with payload := x },
        .defaulted "files" [] (sequence Upload.schema.read) fun x r => { r with files := x }]
    draft := ⟨"", "", .empty, .empty, []⟩ }

end StageRelay
