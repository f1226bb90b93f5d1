import HolyWater.EventSystem
import HolyWater.Swift
import HolyWater.Json
import HolyWater.Models
import HolyWater.ViewModels
import HolyWater.Refresh
import HolyWater.Cells
import HolyWater.CollectionViews
import HolyWater.LibraryScreen
import HolyWater.RecommendedScreen
import HolyWater.Opening
import HolyWater.PageTracking
import HolyWater.InFlight
import HolyWater.LabelRace
import HolyWater.ConfigQueue
import HolyWater.FetchAnswers
import HolyWater.Screens
import HolyWater.Catalogue
import HolyWater.ConfigClient
import HolyWater.Activation
import HolyWater.ConfigUpdate
import HolyWater.BannerCarousel
import HolyWater.CarouselRuns
import HolyWater.Fetches
import HolyWater.ImageSources
import HolyWater.ImageLoads
import HolyWater.LostLoads
