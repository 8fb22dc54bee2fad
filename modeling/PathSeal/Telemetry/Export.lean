import PathSeal.Uri

/-!
# PathSeal.Telemetry.Export

Where and how spans are exported. Nothing is exported here; but an address that
cannot be one, or any wish for compression, keeps the service from starting.
-/

namespace PathSeal.Telemetry

/-- Why spans cannot be exported. -/
inductive ExportFault where
  | compression (algorithm : String)
  | address (fault : Uri.Fault)
deriving DecidableEq

/-- The text of a fault of the export. -/
def ExportFault.message : ExportFault → String
  | compression algorithm => s!"unsupported compression algorithm '{algorithm}'"
  | address fault => s!"invalid URI {fault.message}"

/-- The value of a variable of the export of spans; one for traces alone goes before the general
one. -/
def exportSetting? (value? : String → Option String) (name : String) : Option String :=
  value? s!"OTEL_EXPORTER_OTLP_TRACES_{name}" <|> value? s!"OTEL_EXPORTER_OTLP_{name}"

/-- Checks the export to an address, given the values of variables. Their names have a case here,
and an address in them goes before the one of the settings. -/
def checkExport (value? : String → Option String) (endpoint : String) : Except ExportFault Unit :=
  match exportSetting? value? "COMPRESSION" with
  | some algorithm => .error (.compression algorithm)
  | none => (Uri.check ((exportSetting? value? "ENDPOINT").getD endpoint)).mapError .address

end PathSeal.Telemetry
