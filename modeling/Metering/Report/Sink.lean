import Metering.Host
import Metering.Report.Fault
import Metering.Report.Page
import Metering.Report.Table

/-!
# Metering — where reports go

* `Sink` — the places that a reporter writes to;
* `Sink.write` — writes the samples of one cycle.
-/

namespace Metering.Report

/-- A place that a reporter writes to. -/
inductive Sink where
  /-- The standard output. -/
  | console
  /-- A writer with room for so many bytes more; without room it has failed for good. -/
  | writer (room : Option Nat)
  /-- The log, under a target. -/
  | log (target : String) (format : LineFormat)
  /-- The files of a directory. -/
  | tables (directory : String)

/-- Adds a reading to the table of a metric, with the header if the table is new. -/
def appendRow (h : Host) (directory : String) (s : Sample) : Option Host :=
  let path := filePath directory s.name
  let header := if h.files.exists? path then "" else headerRow s.reading
  (h.files.append? path (header ++ dataRow h.timestamp s.reading)).map fun files =>
    { h with files := files }

/-- Adds all readings to the tables of their metrics, up to the first that fails. -/
def appendRows (h : Host) (directory : String) : List Sample → Host × Bool
  | [] => (h, true)
  | s :: rest =>
    match appendRow h directory s with
    | some h => appendRows h directory rest
    | none => (h, false)

/-- Writes the samples of one cycle of a reporter. -/
def Sink.write (sink : Sink) (h : Host) (reporter : String) (samples : List Sample) :
    Host × Sink × Except ReportFault Unit :=
  match sink with
  | console => (h.print (page h.timestamp samples), console, .ok ())
  | writer room =>
    let size := (page h.timestamp samples).utf8ByteSize
    match room with
    | some room =>
      if size ≤ room then (h, writer (some (room - size)), .ok ())
      else (h, writer none, .error (.io reporter))
    | none => (h, writer none, .error (.io reporter))
  | log target format =>
    (samples.foldl (fun h s => h.line target (format.line s)) h, log target format, .ok ())
  | tables directory =>
    match appendRows h directory samples with
    | (h, true) => (h, tables directory, .ok ())
    | (h, false) => (h, tables directory, .error (.io reporter))

end Metering.Report
