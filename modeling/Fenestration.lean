import Fenestration.Json.Printer
import Fenestration.Proofs.Document.Prices
import Fenestration.Proofs.Layout.Grammar
import Fenestration.Proofs.Material.BillOfMaterials
import Fenestration.Proofs.Quote.BiggerJobs
import Fenestration.Proofs.Quote.CutSizes
import Fenestration.Proofs.Quote.Dependence
import Fenestration.Proofs.Quote.NothingQuoted
import Fenestration.Proofs.Safety.LoadedProjects
import Fenestration.Proofs.Service.Faithful
import Fenestration.Service
import Fenestration.Proofs.Loading.Resending
import Fenestration.Proofs.Quote.SplitJobs
import Fenestration.Proofs.Material.Rearrangement
import Fenestration.Proofs.Session.Replacement
import Fenestration.Proofs.Session.SharedMemory
import Fenestration.Proofs.Material.CutPieces
import Fenestration.Proofs.Material.GlassTiling
import Fenestration.Proofs.Quote.TimberFrames
import Fenestration.Proofs.Document.PrintedAmounts
import Fenestration.Proofs.Document.SchedulesReadBack
import Fenestration.Proofs.Number.MeasuredText
import Fenestration.Proofs.Quote.NonnegativeAmounts
import Fenestration.Proofs.Number.DisplayRounding
import Fenestration.Proofs.Document.StatedDeduction
import Fenestration.Proofs.Settings.Figures
