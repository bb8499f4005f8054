import MonitorSplit.Main
import MonitorSplit.Proofs.Ratio.Misfit
import MonitorSplit.Proofs.Ratio.Scan
import MonitorSplit.Proofs.Monitor.Rejoin
import MonitorSplit.Proofs.CommandLine.DryRun
import MonitorSplit.Proofs.Ratio.Rendering
import MonitorSplit.Proofs.Settings.Profile
import MonitorSplit.Proofs.Display.Names
import MonitorSplit.Proofs.Ratio.FixedPoint
import MonitorSplit.Proofs.Ratio.Grammar
import MonitorSplit.Proofs.Ratio.Reorder
import MonitorSplit.Proofs.Ratio.Stretch
import MonitorSplit.Proofs.Parser.Greedy
import MonitorSplit.Proofs.Ratio.Flat
import MonitorSplit.Proofs.Monitor.Faults
import MonitorSplit.Proofs.CommandLine.Settles
import MonitorSplit.Proofs.Monitor.RowMajor
import MonitorSplit.Proofs.Number.TwiceRounded
import MonitorSplit.Proofs.Monitor.Shares
import MonitorSplit.Proofs.Monitor.Printed
import MonitorSplit.Proofs.Ratio.BoxText
