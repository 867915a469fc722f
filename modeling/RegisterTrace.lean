import RegisterTrace.Main
import RegisterTrace.Proofs.Session.ChangeMarks
import RegisterTrace.Proofs.Session.Completeness
import RegisterTrace.Proofs.Session.Fault
import RegisterTrace.Proofs.Session.Pending
import RegisterTrace.Proofs.Session.ForeignTraffic
import RegisterTrace.Proofs.Session.Refusal
import RegisterTrace.Proofs.RegisterMap.Changes
import RegisterTrace.Proofs.RegisterMap.Names
import RegisterTrace.Proofs.Header.Reading
import RegisterTrace.Proofs.Header.Offsets
import RegisterTrace.Proofs.Header.Definitions
import RegisterTrace.Proofs.Header.Layout
import RegisterTrace.Proofs.Header.FirstBadLine
import RegisterTrace.Proofs.Header.FirstField
import RegisterTrace.Proofs.Capture.Written
import RegisterTrace.Proofs.Capture.Rearranged
import RegisterTrace.Proofs.Session.LimitedSink
import RegisterTrace.Proofs.Capture.Partial
import RegisterTrace.Proofs.Transcript.Reading
import RegisterTrace.Proofs.BitSlices
import RegisterTrace.Proofs.Session.PayloadBytes
import RegisterTrace.Proofs.Program.Verbosity
import RegisterTrace.Proofs.RegisterMap.Index
import RegisterTrace.Proofs.RegisterMap.Contents
import RegisterTrace.Proofs.Session.Histories
import RegisterTrace.Proofs.Session.Frame
import RegisterTrace.Proofs.Session.PayloadColumn
import RegisterTrace.Proofs.Header.DefinitionLine
import RegisterTrace.Proofs.Header.Relaid
import RegisterTrace.Proofs.Capture.FirstFault
import RegisterTrace.Proofs.Payload.Reversal
import RegisterTrace.Proofs.Hexadecimal
