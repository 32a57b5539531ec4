import TokenAtlas.BlockText
import TokenAtlas.Main
import TokenAtlas.Pattern.Meaning
import TokenAtlas.Proofs.BlockFaults
import TokenAtlas.Proofs.Documents
import TokenAtlas.Proofs.EntryExport
import TokenAtlas.Proofs.FaithfulEntries
import TokenAtlas.Proofs.FormatsAgree
import TokenAtlas.Proofs.Integers
import TokenAtlas.Proofs.Json.Blocks
import TokenAtlas.Proofs.Listings
import TokenAtlas.Proofs.Loading
import TokenAtlas.Proofs.PathFormats
import TokenAtlas.Proofs.Pattern.Literal
import TokenAtlas.Proofs.Precedence
import TokenAtlas.Proofs.Recognition
import TokenAtlas.Proofs.Resolution
import TokenAtlas.Proofs.SettingLists
import TokenAtlas.Proofs.SettingShapes
import TokenAtlas.Proofs.TableRuns
import TokenAtlas.Proofs.TokenReports
import TokenAtlas.Proofs.Yaml.ArgumentLines
import TokenAtlas.Proofs.Yaml.BlockDocuments
