import EventLog.Session
import EventLog.Main
import EventLog.Proofs.History
import EventLog.Proofs.SharedBuffer
import EventLog.Proofs.StreamedView
import EventLog.Proofs.SwitchedView
import EventLog.Proofs.LetterCase
import EventLog.Proofs.SettledCase
import EventLog.Proofs.TimedLines
import EventLog.Proofs.TypedQuery
import EventLog.Proofs.LogLines
import EventLog.Json.Written
import EventLog.Proofs.JsonReading
import EventLog.Proofs.JsonSkipping
import EventLog.Proofs.RecordObject
import EventLog.Json.Canonical
import EventLog.Proofs.DecimalTime
import EventLog.Proofs.WrittenLog
import EventLog.Proofs.Marks
import EventLog.Proofs.PrintedRows
import EventLog.Proofs.RunStages
import EventLog.Proofs.PlannedRecords
import EventLog.Proofs.ListReading
import EventLog.Proofs.WholeTimes
import EventLog.Proofs.FoundWords
import EventLog.Proofs.InsertedCodes
import EventLog.Proofs.PlainSearch
import EventLog.Proofs.NumberOrText
import EventLog.Proofs.NarrowedView
import EventLog.Proofs.GreedyMarks
import EventLog.Proofs.LevelCounts
import EventLog.Proofs.PagedReading
import EventLog.Proofs.SpelledNames
import EventLog.Proofs.SpacedQuery
import EventLog.Proofs.ClockTimes
import EventLog.Proofs.LevelChoice
import EventLog.Proofs.DoubleTimes
