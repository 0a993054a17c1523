import RelaxCompact.Text.CharacterName.Block

/-!
The names of the characters from U+1F300 to U+10FFFF.
-/

namespace RelaxCompact.CharacterName

def from1F300 : List Block :=
  [⟨0x1F300, [
    "aCYCLONEaFOGGYaCLOSED UMBRELLAaNIGHT WITH STARSaSUNRISE OVER MOUNTAINSbaCITYSCAPE AT DUSK",
    "aSUNSET OVER BUILDINGSaRAINBOWaBRIDGE AT NIGHTaWATER WAVEaVOLCANOaMILKY WAY",
    "aEARTH GLOBE EUROPE-AFRICAcAMERICAScASIA-AUSTRALIAaGLOBE WITH MERIDIANSaNEW MOON SYMBOL",
    "aWAXING CRESCENTraFIRST QUARTERraWAXING GIBBOUSraFULLraWANING GIBBOUSraLAST QUARTERr",
    "aWANING CRESCENTraCRESCENT MOONaNEW MOON WITH FACEaFIRST QUARTERsaLASTtaFULLsaSUNr",
    "aGLOWING STARaSHOOTINGqaTHERMOMETERaBLACK DROPLETaWHITE SUNcWITH SMALL CLOUDcBEHINDq",
    "eWITH RAINascSNOWcLIGHTNINGcTORNADOaFOGaWIND BLOWING FACEaHOT DOGaTACOaBURRITOaCHESTNUT",
    "aSEEDLINGaEVERGREEN TREEaDECIDUOUSqaPALMqaCACTUSaHOT PEPPERaTULIPaCHERRY BLOSSOMaROSE",
    "aHIBISCUSaSUNFLOWERaBLOSSOMaEAR OF MAIZEcRICEaHERBaFOUR LEAF CLOVERaMAPLE LEAFaFALLENq",
    "aLEAF FLUTTERING IN WINDaMUSHROOMaTOMATOaAUBERGINEaGRAPESaMELONaWATERMELONaTANGERINEaLEMON",
    "aBANANAaPINEAPPLEaRED APPLEaGREENqaPEARaPEACHaCHERRIESaSTRAWBERRYaHAMBURGERaSLICE OF PIZZA",
    "aMEAT ON BONEaPOULTRY LEGaRICE CRACKERbBALLaCOOKED RICEaCURRY ANDqaSTEAMING BOWLaSPAGHETTI",
    "aBREADaFRENCH FRIESaROASTED SWEET POTATOaDANGOaODENaSUSHIaFRIED SHRIMP",
    "aFISH CAKE WITH SWIRL DESIGNaSOFT ICE CREAMaSHAVED ICEaICE CREAMaDOUGHNUTaCOOKIE",
    "aCHOCOLATE BARaCANDYaLOLLIPOPaCUSTARDaHONEY POTaSHORTCAKEaBENTO BOXaPOT OF FOODaCOOKING",
    "aFORK AND KNIFEaTEACUP WITHOUT HANDLEaSAKE BOTTLE AND CUPaWINE GLASSaCOCKTAILq",
    "aTROPICAL DRINKaBEER MUGaCLINKING BEER MUGSaBABY BOTTLEaFORK AND KNIFE WITH PLATE",
    "aBOTTLE WITH POPPING CORKaPOPCORNaRIBBONaWRAPPED PRESENTaBIRTHDAY CAKEaJACK-O-LANTERN",
    "aCHRISTMAS TREEaFATHER CHRISTMASaFIREWORKSaFIREWORK SPARKLERaBALLOONaPARTY POPPER",
    "aCONFETTI BALLaTANABATA TREEaCROSSED FLAGSaPINE DECORATIONaJAPANESE DOLLSaCARP STREAMER",
    "aWIND CHIMEaMOON VIEWING CEREMONYaSCHOOL SATCHELaGRADUATION CAPaHEART WITH TIP ON THE LEFT",
    "aBOUQUET OF FLOWERSaMILITARY MEDALaREMINDER RIBBONaMUSICAL KEYBOARD WITH JACKS",
    "aSTUDIO MICROPHONEaLEVEL SLIDERaCONTROL KNOBSaBEAMED ASCENDING MUSICAL NOTESbDESCENDINGr",
    "aFILM FRAMESaADMISSION TICKETSaCAROUSEL HORSEaFERRIS WHEELaROLLER COASTER",
    "aFISHING POLE AND FISHaMICROPHONEaMOVIE CAMERAaCINEMAaHEADPHONEaARTIST PALETTEaTOP HAT",
    "aCIRCUS TENTaTICKETaCLAPPER BOARDaPERFORMING ARTSaVIDEO GAMEaDIRECT HITaSLOT MACHINE",
    "aBILLIARDSaGAME DIEaBOWLINGaFLOWER PLAYING CARDSaMUSICAL NOTEaMULTIPLE MUSICAL NOTES",
    "aSAXOPHONEaGUITARaMUSICAL KEYBOARDaTRUMPETaVIOLINaMUSICAL SCOREaRUNNING SHIRT WITH SASH",
    "aTENNIS RACQUET AND BALLaSKI AND SKI BOOTaBASKETBALL AND HOOPaCHEQUERED FLAGaSNOWBOARDER",
    "aRUNNERaSURFERaSPORTS MEDALaTROPHYaHORSE RACINGaAMERICAN FOOTBALLaRUGBYqaSWIMMER",
    "aWEIGHT LIFTERaGOLFERaRACING MOTORCYCLEbCARaCRICKET BAT AND BALLaVOLLEYBALL",
    "aFIELD HOCKEY STICK AND BALLaICE HOCKEY STICK AND PUCKaTABLE TENNIS PADDLE AND BALL",
    "aSNOW CAPPED MOUNTAINaCAMPINGaBEACH WITH UMBRELLAaBUILDING CONSTRUCTIONaHOUSE BUILDINGS",
    "aCITYSCAPEaDERELICT HOUSE BUILDINGaCLASSICALqaDESERTbISLANDaNATIONAL PARKaSTADIUM",
    "aHOUSE BUILDINGbWITH GARDENaOFFICE BUILDINGaJAPANESE POST OFFICEaEUROPEANraHOSPITALaBANK",
    "aAUTOMATED TELLER MACHINEaHOTELaLOVEqaCONVENIENCE STOREaSCHOOLaDEPARTMENT STOREaFACTORY",
    "aIZAKAYA LANTERNaJAPANESE CASTLEaEUROPEANqaWHITE PENNANTaBLACKqaWAVING WHITE FLAGbBLACKq",
    "aROSETTEaBLACKqaLABELaBADMINTON RACQUET AND SHUTTLECOCKaBOW AND ARROWaAMPHORA",
    "aEMOJI MODIFIER FITZPATRICK TYPE-1-2dTYPE-3+++aRATaMOUSEaOXaWATER BUFFALOaCOWaTIGERaLEOPARD",
    "aRABBITaCATaDRAGONaCROCODILEaWHALEaSNAILaSNAKEaHORSEaRAMaGOATaSHEEPaMONKEYaROOSTERaCHICKEN",
    "aDOGaPIGaBOARaELEPHANTaOCTOPUSaSPIRAL SHELLaBUGaANTaHONEYBEEaLADY BEETLEaFISHaTROPICALq",
    "aBLOWFISHaTURTLEaHATCHING CHICKaBABYqaFRONT-FACINGraBIRDaPENGUINaKOALAaPOODLE",
    "aDROMEDARY CAMELaBACTRIANqaDOLPHINaMOUSE FACEaCOWqaTIGERqaRABBITqaCATqaDRAGONq",
    "aSPOUTING WHALEaHORSE FACEaMONKEYqaDOGqaPIGqaFROGqaHAMSTERqaWOLFqaBEARqaPANDAqaPIG NOSE",
    "aPAW PRINTSaCHIPMUNKaEYESaEYEaEARaNOSEaMOUTHaTONGUEaWHITE UP POINTING BACKHAND INDEXbDOWNs",
    "bLEFTsbRIGHTsaFISTED HAND SIGNaWAVINGraOKraTHUMBS UPqbDOWNqaCLAPPING HANDSqaOPENraCROWN",
    "aWOMANS HATaEYEGLASSESaNECKTIEaT-SHIRTaJEANSaDRESSaKIMONOaBIKINIaWOMANS CLOTHESaPURSE",
    "aHANDBAGaPOUCHaMANS SHOEaATHLETICqaHIGH-HEELEDqaWOMANS SANDALbBOOTSaFOOTPRINTS",
    "aBUST IN SILHOUETTEaBUSTSraBOYaGIRLaMANaWOMANaFAMILYaMAN AND WOMAN HOLDING HANDSaTWO MENr",
    "bWOMENraPOLICE OFFICERaWOMAN WITH BUNNY EARSaBRIDE WITH VEILaPERSON WITH BLOND HAIR",
    "aMAN WITH GUA PI MAOcTURBANaOLDER MANbWOMANaBABYaCONSTRUCTION WORKERaPRINCESSaJAPANESE OGRE",
    "bGOBLINaGHOSTaBABY ANGELaEXTRATERRESTRIAL ALIENaALIEN MONSTERaIMPaSKULL",
    "aINFORMATION DESK PERSONaGUARDSMANaDANCERaLIPSTICKaNAIL POLISHaFACE MASSAGEaHAIRCUT",
    "aBARBER POLEaSYRINGEaPILLaKISS MARKaLOVE LETTERaRINGaGEM STONEaKISSaBOUQUET",
    "aCOUPLE WITH HEARTaWEDDINGaBEATING HEARTaBROKENqaTWO HEARTSaSPARKLING HEARTaGROWINGq",
    "aHEART WITH ARROWaBLUE HEARTaGREENqaYELLOWqaPURPLEqaHEART WITH RIBBONaREVOLVING HEARTS",
    "aHEART DECORATIONaDIAMOND SHAPE WITH A DOT INSIDEaELECTRIC LIGHT BULBaANGER SYMBOLaBOMB",
    "aSLEEPING SYMBOLaCOLLISIONqaSPLASHING SWEATqaDROPLETaDASH SYMBOLaPILE OF POOaFLEXED BICEPS",
    "aDIZZY SYMBOLaSPEECH BALLOONaTHOUGHTqaWHITE FLOWERaHUNDRED POINTS SYMBOLaMONEY BAG",
    "aCURRENCY EXCHANGEaHEAVY DOLLAR SIGNaCREDIT CARDaBANKNOTE WITH YEN SIGNcDOLLARqcEUROq",
    "cPOUNDqaMONEY WITH WINGSaCHART WITH UPWARDS TREND AND YEN SIGNaSEATaPERSONAL COMPUTER",
    "aBRIEFCASEaMINIDISCaFLOPPY DISKaOPTICAL DISCaDVDaFILE FOLDERaOPENraPAGE WITH CURLbFACING UP",
    "aCALENDARaTEAR-OFFqaCARD INDEXaCHART WITH UPWARDS TRENDcDOWNWARDSqaBAR CHARTaCLIPBOARD",
    "aPUSHPINaROUNDqaPAPERCLIPaSTRAIGHT RULERaTRIANGULARqaBOOKMARK TABSaLEDGERaNOTEBOOK",
    "bWITH DECORATIVE COVERaCLOSED BOOKaOPENqaGREENqaBLUEqaORANGEqaBOOKSaNAME BADGEaSCROLLaMEMO",
    "aTELEPHONE RECEIVERaPAGERaFAX MACHINEaSATELLITE ANTENNAaPUBLIC ADDRESS LOUDSPEAKER",
    "aCHEERING MEGAPHONEaOUTBOX TRAYaINBOXqaPACKAGEaE-MAIL SYMBOLaINCOMING ENVELOPE",
    "aENVELOPE WITH DOWNWARDS ARROW ABOVEaCLOSED MAILBOX WITH LOWERED FLAGdRAISEDqaOPENt",
    "dLOWEREDqaPOSTBOXaPOSTAL HORNaNEWSPAPERaMOBILE PHONEcWITH RIGHTWARDS ARROW AT LEFT",
    "aVIBRATION MODEaMOBILE PHONE OFFaNO MOBILE PHONESaANTENNA WITH BARSaCAMERAbWITH FLASH",
    "aVIDEO CAMERAaTELEVISIONaRADIOaVIDEOCASSETTEaFILM PROJECTORaPORTABLE STEREOaPRAYER BEADS",
    "aTWISTED RIGHTWARDS ARROWSaCLOCKWISE RIGHTWARDS AND LEFTWARDS OPEN CIRCLEq",
    "hWITH CIRCLED ONE OVERLAYbDOWNWARDS AND UPWARDS OPEN CIRCLE ARROWSaANTICLOCKWISEv",
    "aLOW BRIGHTNESS SYMBOLaHIGHraSPEAKER WITH CANCELLATION STROKEbbWITH ONE SOUND WAVE",
    "cTHREE SOUND WAVESaBATTERYaELECTRIC PLUGaLEFT-POINTING MAGNIFYING GLASSaRIGHT-POINTINGr",
    "aLOCK WITH INK PENaCLOSED LOCK WITH KEYaqaLOCKaOPENqaBELLbWITH CANCELLATION STROKEaBOOKMARK",
    "aLINK SYMBOLaRADIO BUTTONaBACK WITH LEFTWARDS ARROW ABOVEaENDt",
    "aON WITH EXCLAMATION MARK WITH LEFT RIGHTraSOON WITH RIGHTWARDSraTOP WITH UPWARDSr",
    "aNO ONE UNDER EIGHTEEN SYMBOLaKEYCAP TENaINPUT SYMBOL FOR LATIN CAPITAL LETTERSeSMALLq",
    "dNUMBERSdSYMBOLSdLATIN LETTERSaFIREaELECTRIC TORCHaWRENCHaHAMMERaNUT AND BOLTaHOCHOaPISTOL",
    "aMICROSCOPEaTELESCOPEaCRYSTAL BALLaSIX POINTED STAR WITH MIDDLE DOT",
    "aJAPANESE SYMBOL FOR BEGINNERaTRIDENT EMBLEMaBLACK SQUARE BUTTONaWHITEraLARGE RED CIRCLE",
    "bBLUEqbORANGE DIAMONDbBLUEqaSMALL ORANGEqbBLUEqaUP-POINTING RED TRIANGLEaDOWN-POINTINGr",
    "aUP-POINTING SMALLraDOWN-POINTINGsaLOWER RIGHT SHADOWED WHITE CIRCLEaUPPERt",
    "aCIRCLED CROSS POMMEEaCROSS POMMEE WITH HALF-CIRCLE BELOWc",
    "aNOTCHED LEFT SEMICIRCLE WITH THREE DOTSbRIGHTtaSYMBOL FOR MARKS CHAPTERaWHITE LATIN CROSS",
    "aHEAVYraCELTICqaOM SYMBOLaDOVE OF PEACEaKAABAaMOSQUEaSYNAGOGUEaMENORAH WITH NINE BRANCHES",
    "aBOWL OF HYGIEIAaCLOCK FACE ONE OCLOCKcTWOqcTHREEqcFOURqcFIVEqcSIXqcSEVENqcEIGHTqcNINEq",
    "cTENqcELEVENqcTWELVEqcONE-THIRTYcTWO-THIRTYcTHREE-THIRTYcFOUR-THIRTYcFIVE-THIRTYcSIX-THIRTY",
    "cSEVEN-THIRTYcEIGHT-THIRTYcNINE-THIRTYcTEN-THIRTYcELEVEN-THIRTYcTWELVE-THIRTYaRIGHT SPEAKER",
    "cWITH ONE SOUND WAVEdTHREE SOUND WAVESaBULLHORNbWITH SOUND WAVESaRINGING BELLaBOOKaCANDLE",
    "aMANTELPIECE CLOCKaBLACK SKULL AND CROSSBONESaNO PIRACYaHOLE",
    "aMAN IN BUSINESS SUIT LEVITATINGaSLEUTH OR SPYaDARK SUNGLASSESaSPIDERbWEBaJOYSTICK",
    "aMAN DANCINGaLEFT HAND TELEPHONE RECEIVERaTELEPHONE RECEIVER WITH PAGE",
    "aRIGHT HAND TELEPHONE RECEIVERaWHITE TOUCHTONE TELEPHONEaBLACKraTELEPHONE ON TOP OF MODEM",
    "aCLAMSHELL MOBILE PHONEaBACK OF ENVELOPEaSTAMPEDqaENVELOPE WITH LIGHTNINGaFLYING ENVELOPE",
    "aPEN OVER STAMPEDqaLINKED PAPERCLIPSaBLACK PUSHPINaLOWER LEFT PENCILcBALLPOINT PEN",
    "cFOUNTAINqcPAINTBRUSHcCRAYONaLEFT WRITING HANDaTURNED OK HAND SIGN",
    "aRAISED HAND WITH FINGERS SPLAYEDaREVERSEDubTHUMBS UP SIGNcDOWNqbVICTORY HAND",
    "bHAND WITH MIDDLE FINGER EXTENDEDaRAISED HAND WITH PART BETWEEN MIDDLE AND RING FINGERS",
    "aWHITE DOWN POINTING LEFT HAND INDEXaSIDEWAYS WHITE LEFT POINTINGqcRIGHTrbBLACK LEFTr",
    "cRIGHTraBLACK LEFT POINTING BACKHANDqbRIGHTsaSIDEWAYS WHITE UP POINTINGqcDOWNrbBLACK UPr",
    "cDOWNraBLACK UP POINTING BACKHANDqbDOWNsbHEARTaDESKTOP COMPUTERaKEYBOARD AND MOUSE",
    "aTHREE NETWORKED COMPUTERSaPRINTERaPOCKET CALCULATORaBLACK HARD SHELL FLOPPY DISKaWHITEt",
    "aSOFTsaTAPE CARTRIDGEaWIRED KEYBOARDaONE BUTTON MOUSEaTWOraTHREEraTRACKBALL",
    "aOLD PERSONAL COMPUTERaHARD DISKaSCREENaPRINTER ICONaFAXqaOPTICAL DISCqaDOCUMENT WITH TEXT",
    "dAND PICTUREcqaFRAMErcTILEScAN XaBLACK FOLDERaqaOPENqaCARD INDEX DIVIDERSbFILE BOX",
    "aFILE CABINETaEMPTY NOTEcPAGEcPADaNOTEbPAGEbPADaEMPTY DOCUMENTbPAGEbPAGESaDOCUMENTaPAGE",
    "aPAGESaWASTEBASKETaSPIRAL NOTE PADbCALENDARqaDESKTOP WINDOWaMINIMIZEaMAXIMIZEaOVERLAP",
    "aCLOCKWISE RIGHT AND LEFT SEMICIRCLE ARROWSaCANCELLATION XaINCREASE FONT SIZE SYMBOL",
    "aDECREASEsaCOMPRESSIONaOLD KEYaROLLED-UP NEWSPAPERaPAGE WITH CIRCLED TEXTaSTOCK CHART",
    "aDAGGER KNIFEaLIPSaSPEAKING HEAD IN SILHOUETTEaTHREE RAYS ABOVEcBELOWcLEFTcRIGHT",
    "aLEFT SPEECH BUBBLEaRIGHTraTWO SPEECH BUBBLESaTHREEraLEFT THOUGHT BUBBLEaRIGHTraLEFT ANGERq",
    "aRIGHTraMOODqaLIGHTNINGrcaBALLOT BOX WITH BALLOTbSCRIPT XbBOX WITHrbBOLDrbBOX WITHs",
    "aLIGHT CHECK MARKaBALLOT BOX WITH BOLD CHECKaWORLD MAPaMOUNT FUJIaTOKYO TOWER",
    "aSTATUE OF LIBERTYaSILHOUETTE OF JAPANaMOYAIaGRINNING FACEcWITH SMILING EYES",
    "aFACE WITH TEARS OF JOYaSMILING FACE WITH OPEN MOUTHfAND SMILING EYESgCOLD SWEAT",
    "gTIGHTLY-CLOSED EYESdHALOdHORNSaWINKING FACEaSMILING FACE WITH SMILING EYES",
    "aFACE SAVOURING DELICIOUS FOODaRELIEVED FACEaSMILING FACE WITH HEART-SHAPED EYESdSUNGLASSES",
    "aSMIRKING FACEaNEUTRALqaEXPRESSIONLESSqaUNAMUSEDqaFACE WITH COLD SWEATaPENSIVE FACE",
    "aCONFUSEDqaCONFOUNDEDqaKISSINGqaFACE THROWING A KISSaKISSING FACE WITH SMILING EYESdCLOSEDq",
    "aFACE WITH STUCK-OUT TONGUEeAND WINKING EYEfTIGHTLY-CLOSED EYESaDISAPPOINTED FACEaWORRIEDq",
    "aANGRYqaPOUTINGqaCRYINGqaPERSEVERINGqaFACE WITH LOOK OF TRIUMPH",
    "aDISAPPOINTED BUT RELIEVED FACEaFROWNING FACE WITH OPEN MOUTHaANGUISHED FACEaFEARFULq",
    "aWEARYqaSLEEPYqaTIREDqaGRIMACINGqaLOUDLY CRYINGqaFACE WITH OPEN MOUTHaHUSHED FACE",
    "aFACE WITH OPEN MOUTH AND COLD SWEATbSCREAMING IN FEARaASTONISHED FACEaFLUSHEDqaSLEEPINGq",
    "aDIZZYqaFACE WITHOUT MOUTHbWITH MEDICAL MASKaGRINNING CAT FACE WITH SMILING EYES",
    "aCAT FACE WITH TEARS OF JOYaSMILING CAT FACE WITH OPEN MOUTHeHEART-SHAPED EYES",
    "aCAT FACE WITH WRY SMILEaKISSING CAT FACE WITH CLOSED EYESaPOUTING CAT FACEaCRYINGraWEARYr",
    "aSLIGHTLY FROWNINGqbSMILINGqaUPSIDE-DOWNqaFACE WITH ROLLING EYEScNO GOOD GESTUREcOKq",
    "aPERSON BOWING DEEPLYaSEE-NO-EVIL MONKEYaHEAR-NO-EVILqaSPEAK-NO-EVILq",
    "aHAPPY PERSON RAISING ONE HANDaPERSON RAISING BOTH HANDS IN CELEBRATIONbFROWNING",
    "bWITH POUTING FACEcFOLDED HANDSaNORTH WEST POINTING LEAFaSOUTHsaNORTH EASTraSOUTHs",
    "aTURNED NORTH WESTrbSOUTHsbNORTH EASTrbSOUTHsaNORTH WEST POINTING VINEqaSOUTHtaNORTH EASTs",
    "aSOUTHtaHEAVY NORTH WESTsbSOUTHtbNORTH EASTsbSOUTHtaNORTH WEST POINTING BUDaSOUTHs",
    "aNORTH EASTraSOUTHsaHEAVY NORTH WESTrbSOUTHsbNORTH EASTrbSOUTHs",
    "aHOLLOW QUILT SQUARE ORNAMENTeIN BLACK SQUAREaSOLID QUILT SQUARE ORNAMENTeIN BLACK SQUARE",
    "aLEFTWARDS ROCKETaUPWARDSqaRIGHTWARDSqaDOWNWARDSqaSCRIPT LIGATURE ET ORNAMENTaHEAVYt",
    "aLIGATURE OPENraHEAVYtbAMPERSANDqaSWASHr",
    "aSANS-SERIF HEAVY DOUBLE TURNED COMMA QUOTATION MARKqdtcLOWuaHEAVY INTERROBANGqaSANS-SERIFr",
    "aHEAVYsaVERY HEAVY SOLIDUScREVERSEqaCHECKER BOARDaREVERSEraROCKETaHELICOPTER",
    "aSTEAM LOCOMOTIVEaRAILWAY CARaHIGH-SPEED TRAINcWITH BULLET NOSEaTRAINaMETROaLIGHT RAIL",
    "aSTATIONaTRAMbCARaBUSaONCOMINGqaTROLLEYBUSaBUS STOPaMINIBUSaAMBULANCEaFIRE ENGINE",
    "aPOLICE CARaONCOMINGraTAXIaONCOMINGqaAUTOMOBILEaONCOMINGqaRECREATIONAL VEHICLE",
    "aDELIVERY TRUCKaARTICULATED LORRYaTRACTORaMONORAILaMOUNTAIN RAILWAYaSUSPENSIONq",
    "aMOUNTAIN CABLEWAYaAERIAL TRAMWAYaSHIPaROWBOATaSPEEDBOATaHORIZONTAL TRAFFIC LIGHTaVERTICALr",
    "aCONSTRUCTION SIGNaPOLICE CARS REVOLVING LIGHTaTRIANGULAR FLAG ON POSTaDOORaNO ENTRY SIGN",
    "aSMOKING SYMBOLaNOraPUT LITTER IN ITS PLACEqaDO NOT LITTERqaPOTABLE WATERqaNON-POTABLEr",
    "aBICYCLEaNO BICYCLESaBICYCLISTaMOUNTAINqaPEDESTRIANaNO PEDESTRIANSaCHILDREN CROSSING",
    "aMENS SYMBOLaWOMENSqaRESTROOMaBABY SYMBOLaTOILETaWATER CLOSETaSHOWERaBATHaBATHTUB",
    "aPASSPORT CONTROLaCUSTOMSaBAGGAGE CLAIMaLEFT LUGGAGEaTRIANGLE WITH ROUNDED CORNERS",
    "aPROHIBITED SIGNaCIRCLED INFORMATION SOURCEaBOYS SYMBOLaGIRLSqaCOUCH AND LAMP",
    "aSLEEPING ACCOMMODATIONaSHOPPING BAGSaBELLHOP BELLaBEDaPLACE OF WORSHIPaOCTAGONAL SIGN",
    "aSHOPPING TROLLEYaSTUPAaPAGODAaHINDU TEMPLEaHUTaELEVATOR"]⟩,
    ⟨0x1F6DD, [
    "aPLAYGROUND SLIDEaWHEELaRING BUOYaHAMMER AND WRENCHaSHIELDaOIL DRUMaMOTORWAYaRAILWAY TRACK",
    "aMOTOR BOATaUP-POINTING MILITARY AIRPLANEbqbSMALLqaraNORTHEAST-POINTINGqaAIRPLANE DEPARTURE",
    "bARRIVING"]⟩,
    ⟨0x1F6F0, [
    "aSATELLITEaONCOMING FIRE ENGINEaDIESEL LOCOMOTIVEaPASSENGER SHIPaSCOOTERaMOTORqaCANOEaSLED",
    "aFLYING SAUCERaSKATEBOARDaAUTO RICKSHAWaPICKUP TRUCKaROLLER SKATE"]⟩,
    ⟨0x1F700, [
    "aALCHEMICAL SYMBOL FOR QUINTESSENCEdAIRdFIREdEARTHdWATERdAQUAFORTISdAQUA REGIAeREGIA-2",
    "eVITAEeVITAE-2dVINEGARdVINEGAR-2+dSULFURdPHILOSOPHERSqdBLACKqdMERCURY SUBLIMATEeSUBLIMATE-2",
    "+dCINNABARdSALTdNITREdVITRIOLdVITRIOL-2dROCK SALTeSALT-2dGOLDdSILVERdIRON OREeORE-2",
    "dCROCUS OF IRONdREGULUSrdCOPPER OREdIRON-COPPERqdSUBLIMATE OF COPPERdCROCUSrfCOPPER-2",
    "dCOPPER ANTIMONIATEdSALT OFrdSUBLIMATE OF SALT OF COPPERdVERDIGRISdTIN OREdLEADqdANTIMONYq",
    "dSUBLIMATE OF ANTIMONYdSALTrdSUBLIMATE OFsdVINEGARrdREGULUSrfANTIMONY-2edREGULUS-2++dALKALI",
    "dALKALI-2dMARCASITEdSAL-AMMONIACdARSENICdREALGARdREALGAR-2dAURIPIGMENTdBISMUTH OREdTARTAR",
    "dTARTAR-2dQUICK LIMEdBORAXdBORAX-2+dALUMdOILdSPIRITdTINCTUREdGUMdWAXdPOWDERdCALXdTUTTY",
    "dCAPUT MORTUUMdSCEPTER OF JOVEdCADUCEUSdTRIDENTdSTARREDqdLODESTONEdSOAPdURINEdHORSE DUNG",
    "dASHESdPOTqdBRICKdPOWDEREDqdAMALGAMdSTRATUM SUPER STRATUMfSTRATUM-2dSUBLIMATIONdPRECIPITATE",
    "dDISTILLdDISSOLVEdDISSOLVE-2dPURIFYdPUTREFACTIONdCRUCIBLEdCRUCIBLE-2+++dALEMBIC",
    "dBATH OF MARYfVAPOURSdRETORTdHOURdNIGHTdDAY-NIGHTdMONTHdHALF DRAMeOUNCE"]⟩,
    ⟨0x1F780, [
    "aBLACK LEFT-POINTING ISOSCELES RIGHT TRIANGLEbUP-POINTINGsbRIGHT-POINTINGsbDOWN-POINTINGs",
    "bSLIGHTLY SMALL CIRCLEaMEDIUM BOLD WHITEqasaHEAVYraVERYsaEXTREMELYs",
    "aWHITE CIRCLE CONTAINING BLACK SMALLqaROUND TARGETaBLACK TINY SQUAREbSLIGHTLY SMALLq",
    "aLIGHT WHITEqaMEDIUMraBOLDraHEAVYraVERYsaEXTREMELYs",
    "aWHITE SQUARE CONTAINING BLACK VERY SMALLqeMEDIUMqaSQUARE TARGETaBLACK TINY DIAMOND",
    "bVERY SMALLqbMEDIUMraWHITE DIAMOND CONTAINING BLACK VERYreMEDIUMqaDIAMOND TARGET",
    "aBLACK TINY LOZENGEbVERY SMALLqbMEDIUMraWHITE LOZENGE CONTAINING BLACKraTHIN GREEK CROSS",
    "aLIGHTraMEDIUMraBOLDraVERYsbHEAVYraEXTREMELYsaTHIN SALTIREaLIGHTqaMEDIUMqaBOLDqaHEAVYq",
    "aVERYraEXTREMELYraLIGHT FIVE SPOKED ASTERISKaMEDIUMsaBOLDsaHEAVYsaVERYtaEXTREMELYt",
    "aLIGHT SIXraMEDIUMsaBOLDsaHEAVYsaVERYtaEXTREMELYtaLIGHT EIGHTraMEDIUMsaBOLDsaHEAVYsaVERYt",
    "aLIGHT THREE POINTED BLACK STARaMEDIUMtataMEDIUM THREE POINTED PINWHEELq",
    "aLIGHT FOUR POINTED BLACKqaMEDIUMtataMEDIUM FOUR POINTED PINWHEELqaREVERSE LIGHTt",
    "aLIGHT FIVE POINTED BLACKqaHEAVYtaMEDIUM SIXsaHEAVYtaSIX POINTED PINWHEELq",
    "aMEDIUM EIGHT POINTED BLACKqaHEAVYtaVERYuaHEAVY EIGHT POINTED PINWHEELq",
    "aLIGHT TWELVE POINTED BLACKqaHEAVYtdPINWHEELqaCIRCLED TRIANGLEaNEGATIVEraCIRCLED SQUARE",
    "aNEGATIVEr"]⟩,
    ⟨0x1F7E0, [
    "aLARGE ORANGE CIRCLEbYELLOWqbGREENqbPURPLEqbBROWNqbRED SQUAREbBLUEqbORANGEqbYELLOWqbGREENq",
    "bPURPLEqbBROWNq"]⟩,
    ⟨0x1F7F0, ["aHEAVY EQUALS SIGN"]⟩,
    ⟨0x1F800, [
    "aLEFTWARDS ARROW WITH SMALL TRIANGLE ARROWHEADaUPWARDSuaRIGHTWARDSuaDOWNWARDSu",
    "aLEFTWARDS ARROW WITH MEDIUMraUPWARDSuaRIGHTWARDSuaDOWNWARDSuaLEFTWARDS ARROW WITH LARGEr",
    "aUPWARDSuaRIGHTWARDSuaDOWNWARDSu"]⟩,
    ⟨0x1F810, [
    "aLEFTWARDS ARROW WITH SMALL EQUILATERAL ARROWHEADaUPWARDSuaRIGHTWARDSuaDOWNWARDSu",
    "aLEFTWARDS ARROW WITHraUPWARDStaRIGHTWARDStaDOWNWARDStaHEAVY LEFTWARDStbUPWARDSt",
    "bRIGHTWARDStbDOWNWARDStbLEFTWARDS ARROW WITH LARGErbUPWARDSubRIGHTWARDSubDOWNWARDSu",
    "aLEFTWARDS TRIANGLE-HEADED ARROW WITH NARROW SHAFTaUPWARDSuaRIGHTWARDSuaDOWNWARDSu",
    "aLEFTWARDS TRIANGLE-HEADED ARROW WITH MEDIUMqaUPWARDSuaRIGHTWARDSuaDOWNWARDSu",
    "aLEFTWARDS TRIANGLE-HEADED ARROW WITH BOLDqaUPWARDSuaRIGHTWARDSuaDOWNWARDSu",
    "aLEFTWARDS TRIANGLE-HEADED ARROW WITH HEAVYqaUPWARDSuaRIGHTWARDSuaDOWNWARDSu",
    "aLEFTWARDS TRIANGLE-HEADED ARROW WITH VERYraUPWARDSvaRIGHTWARDSvaDOWNWARDSv",
    "aLEFTWARDS FINGER-POST ARROWaUPWARDSraRIGHTWARDSraDOWNWARDSraLEFTWARDS SQUAREDqaUPWARDSr",
    "aRIGHTWARDSraDOWNWARDSraLEFTWARDS COMPRESSEDqaUPWARDSraRIGHTWARDSraDOWNWARDSr",
    "aLEFTWARDS HEAVYraUPWARDSsaRIGHTWARDSsaDOWNWARDSsaLEFTWARDS HEAVYqaUPWARDSraRIGHTWARDSr",
    "aDOWNWARDSr"]⟩,
    ⟨0x1F850, [
    "aLEFTWARDS SANS-SERIF ARROWaUPWARDSraRIGHTWARDSraDOWNWARDSraNORTH WESTrbEASTraSOUTHsbWESTr",
    "aLEFT RIGHTraUP DOWNr"]⟩,
    ⟨0x1F860, [
    "aWIDE-HEADED LEFTWARDS LIGHT BARB ARROWbUPWARDSsbRIGHTWARDSsbDOWNWARDSsbNORTH WESTscEASTs",
    "bSOUTHtcWESTsbLEFTWARDSrbUPWARDSrbRIGHTWARDSrbDOWNWARDSrbNORTH WESTrcEASTrbSOUTHscWESTr",
    "bLEFTWARDS MEDIUMrbUPWARDSsbRIGHTWARDSsbDOWNWARDSsbNORTH WESTscEASTsbSOUTHtcWESTs",
    "bLEFTWARDS HEAVYrbUPWARDSsbRIGHTWARDSsbDOWNWARDSsbNORTH WESTscEASTsbSOUTHtcWESTs",
    "bLEFTWARDS VERYsbUPWARDStbRIGHTWARDStbDOWNWARDStbNORTH WESTtcEASTtbSOUTHucWESTt"]⟩,
    ⟨0x1F890, [
    "aLEFTWARDS TRIANGLE ARROWHEADaUPWARDSraRIGHTWARDSraDOWNWARDSraLEFTWARDS WHITE ARROW WITHINr",
    "aUPWARDSuaRIGHTWARDSuaDOWNWARDSuaLEFTWARDS ARROW WITH NOTCHED TAILaUPWARDStaRIGHTWARDSt",
    "aDOWNWARDStaHEAVY ARROW SHAFT WIDTH ONEeTWO THIRDSeONE HALFfTHIRD",
    "aLEFTWARDS BOTTOM-SHADED WHITE ARROWaRIGHTWARDS BOTTOM SHADEDraLEFTWARDS TOPsaRIGHTWARDSt",
    "aLEFTWARDS LEFT-SHADEDraRIGHTWARDS RIGHT-SHADEDraLEFTWARDSsaRIGHTWARDS LEFT-SHADEDr",
    "aLEFTWARDS BACK-TILTED SHADOWEDraRIGHTWARDStaLEFTWARDS FRONT-TILTEDsaRIGHTWARDSt",
    "aWHITE ARROW SHAFT WIDTH ONEeTWO THIRDS"]⟩,
    ⟨0x1F8B0, ["aARROW POINTING UPWARDS THEN NORTH WESTcRIGHTWARDS THEN CURVING SOUTHq"]⟩,
    ⟨0x1F900, [
    "aCIRCLED CROSS FORMEE WITH FOUR DOTSeTWOqdaLEFT HALF CIRCLE WITH FOUR DOTSeTHREEqeTWOqeDOTd",
    "aDOWNWARD FACING HOOKcNOTCHEDqcHOOK WITH DOTcNOTCHEDsaPINCHED FINGERSaWHITE HEARTaBROWNq",
    "aPINCHING HANDaZIPPER-MOUTH FACEaMONEY-MOUTHqaFACE WITH THERMOMETERaNERD FACEaTHINKINGq",
    "aFACE WITH HEAD-BANDAGEaROBOT FACEaHUGGINGqaSIGN OF THE HORNSaCALL ME HANDaRAISED BACK OFq",
    "aLEFT-FACING FISTaRIGHT-FACINGqaHANDSHAKEaHAND WITH INDEX AND MIDDLE FINGERS CROSSED",
    "aI LOVE YOU HAND SIGNaFACE WITH COWBOY HATaCLOWN FACEaNAUSEATEDq",
    "aROLLING ON THE FLOOR LAUGHINGaDROOLING FACEaLYINGqaFACE PALMaSNEEZING FACE",
    "aFACE WITH ONE EYEBROW RAISEDaGRINNING FACE WITH STAR EYESdONE LARGE AND ONE SMALL EYE",
    "aFACE WITH FINGER COVERING CLOSED LIPSaSERIOUS FACE WITH SYMBOLS COVERING MOUTH",
    "aSMILING FACE WITH SMILING EYES AND HANDraFACE WITH OPEN MOUTH VOMITING",
    "aSHOCKED FACE WITH EXPLODING HEADaPREGNANT WOMANaBREAST-FEEDINGaPALMS UP TOGETHERaSELFIE",
    "aPRINCEaMAN IN TUXEDOaMOTHER CHRISTMASaSHRUGaPERSON DOING CARTWHEELaJUGGLINGaFENCER",
    "aMODERN PENTATHLONaWRESTLERSaWATER POLOaHANDBALLaDIVING MASKaWILTED FLOWER",
    "aDRUM WITH DRUMSTICKSaCLINKING GLASSESaTUMBLER GLASSaSPOONaGOAL NETaRIFLEaFIRST PLACE MEDAL",
    "aSECONDraTHIRDraBOXING GLOVEaMARTIAL ARTS UNIFORMaCURLING STONEaLACROSSE STICK AND BALL",
    "aSOFTBALLaFLYING DISCaCROISSANTaAVOCADOaCUCUMBERaBACONaPOTATOaCARROTaBAGUETTE BREAD",
    "aGREEN SALADaSHALLOW PAN OF FOODaSTUFFED FLATBREADaEGGaGLASS OF MILKaPEANUTSaKIWIFRUIT",
    "aPANCAKESaDUMPLINGaFORTUNE COOKIEaTAKEOUT BOXaCHOPSTICKSaBOWL WITH SPOONaCUP WITH STRAW",
    "aCOCONUTaBROCCOLIaPIEaPRETZELaCUT OF MEATaSANDWICHaCANNED FOODaLEAFY GREENaMANGOaMOON CAKE",
    "aBAGELaSMILING FACE WITH SMILING EYES AND THREE HEARTSaYAWNING FACEaSMILING FACE WITH TEAR",
    "aFACE WITH PARTY HORN AND PARTY HATcUNEVEN EYES AND WAVY MOUTHaOVERHEATED FACEaFREEZINGq",
    "aNINJAaDISGUISED FACEaFACE HOLDING BACK TEARSbWITH PLEADING EYESaSARIaLAB COATaGOGGLES",
    "aHIKING BOOTaFLAT SHOEaCRABaLION FACEaSCORPIONaTURKEYaUNICORN FACEaEAGLEaDUCKaBATaSHARKaOWL",
    "aFOX FACEaBUTTERFLYaDEERaGORILLAaLIZARDaRHINOCEROSaSHRIMPaSQUIDaGIRAFFE FACEaZEBRAq",
    "aHEDGEHOGaSAUROPODaT-REXaCRICKETaKANGAROOaLLAMAaPEACOCKaHIPPOPOTAMUSaPARROTaRACCOONaLOBSTER",
    "aMOSQUITOaMICROBEaBADGERaSWANaMAMMOTHaDODOaSLOTHaOTTERaORANGUTANaSKUNKaFLAMINGOaOYSTER",
    "aBEAVERaBISONaSEALaGUIDE DOGaPROBING CANEaEMOJI COMPONENT RED HAIRcCURLYqcBALDcWHITE HAIR",
    "aBONEaLEGaFOOTaTOOTHaSUPERHEROaSUPERVILLAINaSAFETY VESTaEAR WITH HEARING AID",
    "aMOTORIZED WHEELCHAIRaMANUALqaMECHANICAL ARMbLEGaCHEESE WEDGEaCUPCAKEaSALT SHAKER",
    "aBEVERAGE BOXaGARLICaONIONaFALAFELaWAFFLEaBUTTERaMATE DRINKaICE CUBEaBUBBLE TEAaTROLL",
    "aSTANDING PERSONaKNEELINGqaDEAFqaFACE WITH MONOCLEaADULTaCHILDaOLDER ADULTaBEARDED PERSON",
    "aPERSON WITH HEADSCARFbIN STEAMY ROOMbCLIMBINGbIN LOTUS POSITIONaMAGEaFAIRYaVAMPIRE",
    "aMERPERSONaELFaGENIEaZOMBIEaBRAINaORANGE HEARTaBILLED CAPaSCARFaGLOVESaCOATaSOCKS",
    "aRED GIFT ENVELOPEaFIRECRACKERaJIGSAW PUZZLE PIECEaTEST TUBEaPETRI DISHaDNA DOUBLE HELIX",
    "aCOMPASSaABACUSaFIRE EXTINGUISHERaTOOLBOXaBRICKaMAGNETaLUGGAGEaLOTION BOTTLE",
    "aSPOOL OF THREADaBALL OF YARNaSAFETY PINaTEDDY BEARaBROOMaBASKETaROLL OF PAPERaBAR OF SOAP",
    "aSPONGEaRECEIPTaNAZAR AMULETaNEUTRAL CHESS KINGcQUEENcROOKcBISHOPcKNIGHTcPAWN",
    "aWHITE CHESS KNIGHT ROTATED FORTY-FIVE DEGREESaBLACKuaNEUTRALu",
    "aWHITE CHESS KING ROTATED NINETYqcQUEENscROOKscBISHOPscKNIGHTscPAWNsaBLACK CHESS KINGs",
    "cQUEENscROOKscBISHOPscKNIGHTscPAWNsaNEUTRAL CHESS KINGscQUEENscROOKscBISHOPscKNIGHTscPAWNs",
    "aWHITE CHESS KNIGHT ROTATED ONE HUNDRED THIRTY-FIVEqaBLACKwaNEUTRALw",
    "aWHITE CHESS TURNED KINGdQUEENdROOKdBISHOPdKNIGHTdPAWNaBLACK CHESS TURNED KINGdQUEENdROOK",
    "dBISHOPdKNIGHTdPAWNaNEUTRAL CHESS TURNED KINGdQUEENdROOKdBISHOPdKNIGHTdPAWN",
    "aWHITE CHESS KNIGHT ROTATED TWO HUNDRED TWENTY-FIVE DEGREESaBLACKwaNEUTRALw",
    "aWHITE CHESS KING ROTATED TWO HUNDRED SEVENTYqcQUEENucROOKucBISHOPucKNIGHTucPAWNu",
    "aBLACK CHESS KINGucQUEENucROOKucBISHOPucKNIGHTucPAWNuaNEUTRAL CHESS KINGucQUEENucROOKu",
    "cBISHOPucKNIGHTucPAWNuaWHITE CHESS KNIGHT ROTATED THREE HUNDRED FIFTEENqaBLACKwaNEUTRALw",
    "aWHITE CHESS EQUIHOPPERaBLACKraNEUTRALraWHITE CHESS EQUIHOPPER ROTATED NINETY DEGREES",
    "aBLACKuaNEUTRALuaWHITE CHESS KNIGHT-QUEENcKNIGHT-ROOKcKNIGHT-BISHOP",
    "aBLACK CHESS KNIGHT-QUEENcKNIGHT-ROOKcKNIGHT-BISHOP"]⟩,
    ⟨0x1FA60, [
    "aXIANGQI RED GENERALcMANDARINcELEPHANTcHORSEcCHARIOTcCANNONcSOLDIERbBLACK GENERALcMANDARIN",
    "cELEPHANTcHORSEcCHARIOTcCANNONcSOLDIER"]⟩,
    ⟨0x1FA70, ["aBALLET SHOESaONE-PIECE SWIMSUITaBRIEFSaSHORTSaTHONG SANDAL"]⟩,
    ⟨0x1FA78, ["aDROP OF BLOODaADHESIVE BANDAGEaSTETHOSCOPEaX-RAYaCRUTCH"]⟩,
    ⟨0x1FA80, ["aYO-YOaKITEaPARACHUTEaBOOMERANGaMAGIC WANDaPINATAaNESTING DOLLS"]⟩,
    ⟨0x1FA90, [
    "aRINGED PLANETaCHAIRaRAZORaAXEaDIYA LAMPaBANJOaMILITARY HELMETaACCORDIONaLONG DRUMaCOIN",
    "aCARPENTRY SAWaSCREWDRIVERaLADDERaHOOKaMIRRORaWINDOWaPLUNGERaSEWING NEEDLEaKNOTaBUCKET",
    "aMOUSE TRAPaTOOTHBRUSHaHEADSTONEaPLACARDaROCKaMIRROR BALLaIDENTIFICATION CARDaLOW BATTERY",
    "aHAMSA"]⟩,
    ⟨0x1FAB0, [
    "aFLYaWORMaBEETLEaCOCKROACHaPOTTED PLANTaWOODaFEATHERaLOTUSaCORALaEMPTY NESTaNEST WITH EGGS"]⟩,
    ⟨0x1FAC0, ["aANATOMICAL HEARTaLUNGSaPEOPLE HUGGINGaPREGNANT MANbPERSONaPERSON WITH CROWN"]⟩,
    ⟨0x1FAD0, [
    "aBLUEBERRIESaBELL PEPPERaOLIVEaFLATBREADaTAMALEaFONDUEaTEAPOTaPOURING LIQUIDaBEANSaJAR"]⟩,
    ⟨0x1FAE0, [
    "aMELTING FACEaSALUTINGqaFACE WITH OPEN EYES AND HAND OVER MOUTHcPEEKING EYEcDIAGONAL MOUTH",
    "aDOTTED LINE FACEaBITING LIPaBUBBLES"]⟩,
    ⟨0x1FAF0, [
    "aHAND WITH INDEX FINGER AND THUMB CROSSEDaRIGHTWARDS HANDaLEFTWARDSqaPALM DOWNqbUPq",
    "aINDEX POINTING AT THE VIEWERaHEART HANDS"]⟩,
    ⟨0x1FB00, [
    "aBLOCK SEXTANT-1+bSEXTANT-12bSEXTANT-3bSEXTANT-13bSEXTANT-23bSEXTANT-123bSEXTANT-4",
    "bSEXTANT-14bSEXTANT-24bSEXTANT-124bSEXTANT-34bSEXTANT-134bSEXTANT-234bSEXTANT-1234",
    "bSEXTANT-5bSEXTANT-15bSEXTANT-25bSEXTANT-125bSEXTANT-35bSEXTANT-235bSEXTANT-1235bSEXTANT-45",
    "bSEXTANT-145bSEXTANT-245bSEXTANT-1245bSEXTANT-345bSEXTANT-1345bSEXTANT-2345bSEXTANT-12345",
    "bSEXTANT-6bSEXTANT-16bSEXTANT-26bSEXTANT-126bSEXTANT-36bSEXTANT-136bSEXTANT-236",
    "bSEXTANT-1236bSEXTANT-46bSEXTANT-146bSEXTANT-1246bSEXTANT-346bSEXTANT-1346bSEXTANT-2346",
    "bSEXTANT-12346bSEXTANT-56bSEXTANT-156bSEXTANT-256bSEXTANT-1256bSEXTANT-356bSEXTANT-1356",
    "bSEXTANT-2356bSEXTANT-12356bSEXTANT-456bSEXTANT-1456bSEXTANT-2456bSEXTANT-12456",
    "bSEXTANT-3456bSEXTANT-13456bSEXTANT-23456",
    "aLOWER LEFT BLOCK DIAGONAL LOWER MIDDLE LEFT TO LOWER CENTREjRIGHT",
    "eUPPER MIDDLE LEFT TO LOWER CENTREjRIGHTfLEFT TO LOWER CENTRE",
    "bRIGHT BLOCK DIAGONAL UPPER MIDDLE LEFT TO UPPERqjRIGHTeLOWER MIDDLE LEFT TO UPPER CENTRE",
    "jRIGHTfLEFT TO UPPER CENTREfMIDDLE LEFT TO UPPER MIDDLE RIGHTfCENTRE TO LOWERrfLEFTt",
    "fCENTRE TO UPPERrfLEFTtfCENTRE TO UPPERqbLEFT BLOCK DIAGONAL UPPER CENTRE TO UPPER MIDDLEq",
    "fLEFTtfCENTRE TO LOWERrfLEFTtfCENTRE TO LOWERqfMIDDLE LEFT TO LOWER MIDDLEq",
    "aUPPER RIGHT BLOCK DIAGONAL LOWER MIDDLE LEFT TO LOWER CENTREjRIGHT",
    "eUPPER MIDDLE LEFT TO LOWER CENTREjRIGHTfLEFT TO LOWER CENTRE",
    "bLEFT BLOCK DIAGONAL UPPER MIDDLE LEFT TO UPPERqjRIGHTeLOWER MIDDLE LEFT TO UPPER CENTRE",
    "jRIGHTfLEFT TO UPPER CENTREfMIDDLE LEFT TO UPPER MIDDLE RIGHTfCENTRE TO LOWERrfLEFTt",
    "fCENTRE TO UPPERrfLEFTtfCENTRE TO UPPERqbRIGHT BLOCK DIAGONAL UPPER CENTRE TO UPPER MIDDLEq",
    "fLEFTtfCENTRE TO LOWERrfLEFTtfCENTRE TO LOWERqfMIDDLE LEFT TO LOWER MIDDLEq",
    "bAND RIGHT AND LOWER TRIANGULAR THREE QUARTERS BLOCKaLEFT AND LOWER AND RIGHTt",
    "aUPPER AND LEFT AND LOWERtaLEFT AND UPPER AND RIGHTtbTRIANGULAR ONE QUARTERqaUPPERtaRIGHTt",
    "aLOWERtaVERTICAL ONE EIGHTH BLOCK-2+++++aHORIZONTAL ONE EIGHTH BLOCK-2+++++",
    "aLEFT AND LOWER ONE EIGHTH BLOCKcUPPERsaRIGHTucLOWERsaUPPERu",
    "aHORIZONTAL ONE EIGHTH BLOCK-1358aUPPER ONE QUARTER BLOCKbTHREE EIGHTHSqbFIVEr",
    "bTHREE QUARTERSqbSEVEN EIGHTHSqaRIGHT ONE QUARTERqbTHREE EIGHTHSqbFIVErbTHREE QUARTERSq",
    "bSEVEN EIGHTHSqaLEFT HALF MEDIUM SHADEaRIGHTsaUPPERsaLOWERsaINVERSEr",
    "aUPPER HALF BLOCK AND LOWER HALFscINVERSE MEDIUM SHADE AND LOWER HALF BLOCK"]⟩,
    ⟨0x1FB94, [
    "aLEFT HALF INVERSE MEDIUM SHADE AND RIGHT HALF BLOCKaCHECKER BOARD FILLaINVERSEs",
    "aHEAVY HORIZONTALqaUPPER LEFT TO LOWER RIGHTqbRIGHT TO LOWER LEFTq",
    "bAND LOWER TRIANGULAR HALF BLOCKaLEFT AND RIGHTsaUPPER LEFT TRIANGULAR MEDIUM SHADEbRIGHTs",
    "aLOWERtbLEFTsaBOX DRAWINGS LIGHT DIAGONAL UPPER CENTRE TO MIDDLE LEFTiRIGHT",
    "eMIDDLE LEFT TO LOWER CENTREfRIGHTseUPPER CENTRE TO MIDDLE LEFTsiRIGHTs",
    "eMIDDLE LEFT TO LOWER CENTRE TO MIDDLE RIGHThUPPERt",
    "eUPPER CENTRE TO MIDDLE LEFT AND MIDDLE RIGHT TO LOWER CENTREiRIGHT AND MIDDLE LEFTs",
    "jTO LOWER CENTRE TO MIDDLE LEFTiLEFT TO LOWER CENTRE TO MIDDLE RIGHT",
    "eMIDDLE LEFT TO UPPER CENTRE TO MIDDLE RIGHT TO LOWER CENTRE",
    "fRIGHT TO UPPER CENTRE TO MIDDLE LEFTseDIAMONDdHORIZONTAL WITH VERTICAL STROKE",
    "aARROWHEAD-SHAPED POINTERaINVERSE CHECK MARKaLEFT HALF RUNNING MANaRIGHTs",
    "aINVERSE DOWNWARDS ARROW WITH TIP LEFTWARDS",
    "aLEFTWARDS ARROW AND UPPER AND LOWER ONE EIGHTH BLOCKaRIGHTWARDSx",
    "aDOWNWARDS ARROW AND RIGHTsaUPWARDSvaLEFT HALF FOLDERaRIGHTraVOIDED GREEK CROSS",
    "aRIGHT OPEN SQUARED DOTaNEGATIVE DIAGONAL CROSScMIDDLE RIGHT TO LOWER CENTREcDIAMOND",
    "aWHITE HEAVY SALTIRE WITH ROUNDED CORNERSaLEFT THIRD WHITE RIGHT POINTING INDEXaMIDDLEu",
    "aRIGHTuaNEGATIVE SQUARED QUESTION MARKaSTICK FIGUREcWITH ARMS RAISEDcLEANING LEFTdRIGHT",
    "cWITH DRESSaWHITE UP-POINTING CHEVRON"]⟩,
    ⟨0x1FBF0, ["aSEGMENTED DIGIT ZEROcONEcTWOcTHREEcFOURcFIVEcSIXcSEVENcEIGHTcNINE"]⟩,
    ⟨0xE0001, ["aLANGUAGE TAG"]⟩,
    ⟨0xE0020, [
    "aTAG SPACEbEXCLAMATION MARKbQUOTATIONqbNUMBER SIGNbDOLLARqbPERCENTqbAMPERSANDbAPOSTROPHE",
    "bLEFT PARENTHESISbRIGHTqbASTERISKbPLUS SIGNbCOMMAbHYPHEN-MINUSbFULL STOPbSOLIDUSbDIGIT ZERO",
    "cONEcTWOcTHREEcFOURcFIVEcSIXcSEVENcEIGHTcNINEbCOLONbSEMICOLONbLESS-THAN SIGNbEQUALSq",
    "bGREATER-THANqbQUESTION MARKbCOMMERCIAL ATbLATIN CAPITAL LETTER AeBeCeDeEeFeGeHeIeJeKeLeMeN",
    "eOePeQeReSeTeUeVeWeXeYeZbLEFT SQUARE BRACKETbREVERSE SOLIDUSbRIGHT SQUARE BRACKET",
    "bCIRCUMFLEX ACCENTbLOW LINEbGRAVE ACCENTbLATIN SMALL LETTER AeBeCeDeEeFeGeHeIeJeKeLeMeNeOeP",
    "eQeReSeTeUeVeWeXeYeZbLEFT CURLY BRACKETbVERTICAL LINEbRIGHT CURLY BRACKETbTILDEaCANCEL TAG"]⟩,
    ⟨0xE0100, [
    "aVARIATION SELECTOR-17+++++++++++++++++++++++++++++++++++++++++++++++++++++++++++++++++++++",
    "+++++++++++++++++++++++++++++++++++++++++++++++++++++++++++++++++++++++++++++++++++++++++++",
    "+++++++++++++++++++++++++++++++++++++++++++++++++++++++++++++++++++++++++++++++"]⟩]

end RelaxCompact.CharacterName
